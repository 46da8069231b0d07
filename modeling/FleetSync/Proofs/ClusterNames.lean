import FleetSync.Config
import FleetSync.Proofs.CharacterBytes
import FleetSync.Proofs.Convergence

/-!
# The two sources of a cluster's name

A configured name is taken as it stands, and a registered one without the blanks around it. So the
two agree on a name exactly if no blank stands around it, and then every pass is the same from
either. A name with such a blank places the cluster elsewhere.
-/
namespace FleetSync

variable {k : Kind} {α : Type} {name : String} {key : Key}

/-! Names -/

/-- The secret holds the bytes of a text where a registration puts the name. -/
def Concrete.HoldsName (secret : Concrete Kind.secret) (name : String) : Prop :=
  ∃ data, SecretBody.data secret.body = some data ∧
    data.get? registeredNameKey = some (Text.toUtf8 name)

theorem registeredName?_of_holdsName {secret : Concrete Kind.secret} (h : secret.HoldsName name) :
    registeredName? (some secret) =
      if Text.trim name = "" then none else some (Text.trim name) := by
  obtain ⟨data, hdata, hget⟩ := h
  have hname : registeredName? (some secret) =
      ((SecretBody.data secret.body).bind fun data =>
        (data.get? registeredNameKey).bind fun bytes =>
          if Text.trim (Text.ofUtf8Lossy bytes) = "" then none
          else some (Text.trim (Text.ofUtf8Lossy bytes))) := rfl
  rw [hname, hdata, Option.bind_some, hget, Option.bind_some, Text.ofUtf8Lossy_toUtf8]

theorem clusterNameOf_of_holdsName {secret : Concrete Kind.secret} (h : secret.HoldsName name)
    (hblank : Text.trim name ≠ "") : clusterNameOf (some secret) = Text.trim name := by
  unfold clusterNameOf
  rw [registeredName?_of_holdsName h, if_neg hblank]
  rfl

theorem Config.trim_ne_of_validate {c : Config} (hname : c.clusterName = some name)
    (hvalid : c.validate = .ok ()) : Text.trim name ≠ "" := by
  intro hblank
  have hfault : c.fault? = some .blankClusterName := by
    unfold fault?
    rw [if_pos]
    simp [hname, hblank]
  unfold validate at hvalid
  rw [hfault] at hvalid
  cases hvalid

theorem Placement.places_congr_iff {a b : String} (ha : a ≠ "") :
    (∀ p : Placement, p.places a = p.places b) ↔ a = b := by
  constructor
  · intro h
    have hplaced : (Placement.mk [a]).places b = true := by
      rw [← h]
      exact places_iff.2 ⟨ha, List.mem_singleton_self a⟩
    exact (List.mem_singleton.1 (places_iff.1 hplaced).2).symm
  · rintro rfl p
    rfl

/-! Simulations of a named cluster -/
namespace Simulation

def identifiedBy (w : Simulation k) (identity : Identity) : Simulation k := { w with identity }

/-- The registration at an address holds the bytes of a name, and it is read undisturbed. -/
structure Registers (key : Key) (name : String) (w : Simulation k) : Prop where
  script : w.registration.script = fun _ => []
  held : ∃ secret, w.registration.store.find? key = some secret ∧
    Concrete.HoldsName secret name

/-- The name is read undisturbed, wherever it is taken from. -/
structure IsNamed (name : String) (w : Simulation k) : Prop where
  script : w.registration.script = fun _ => []
  name : (clusterName w).1 = .ok name

/-- What a simulation shows apart from the source of the cluster's name and from its readings. -/
def unsourced (name : String) (w : Simulation k) : Simulation k :=
  { w with identity := .fixed name, calls := w.calls.filter (·.1 ≠ .registration) }

theorem clusterName_identifiedBy_registered {w : Simulation k} (hw : w.Registers key name)
    (hblank : Text.trim name ≠ "") :
    (clusterName (w.identifiedBy (.registered key))).1 = .ok (Text.trim name) := by
  obtain ⟨secret, hfind, hname⟩ := hw.held
  have hread : (clusterName (w.identifiedBy (.registered key))).1 =
      ((w.registration.answer (.get key)).1 : Except Failure _).map clusterNameOf := rfl
  have hget : (w.registration.answer (.get key)).1 =
      (.ok (w.registration.store.find? key) : Except Failure (Option (Concrete Kind.secret))) := by
    rw [ScriptedStore.answer_of_quiet hw.script]
    rfl
  rw [hread, hget, hfind, ← clusterNameOf_of_holdsName hname hblank]
  rfl

theorem clusterName_of_isNamed {w : Simulation k} (hw : w.IsNamed name) :
    clusterName (w.unsourced name) = ((clusterName w).1, (clusterName w).2.unsourced name) ∧
      (clusterName w).2.IsNamed name := by
  have hname (v : Simulation k) : clusterName v = v.identity.clusterName
      (m := StateM (Simulation k)) (fun key => callStore .registration (.get key)) v := rfl
  have hfixed : clusterName (w.unsourced name) = (.ok name, w.unsourced name) := rfl
  rw [hfixed, hw.name]
  cases hi : w.identity with
  | fixed other =>
    have hread : (clusterName w).2 = w := by
      rw [hname, hi]
      rfl
    rw [hread]
    exact ⟨rfl, hw⟩
  | failing f =>
    have hread : (clusterName w).2 = w := by
      rw [hname, hi]
      rfl
    rw [hread]
    exact ⟨rfl, hw⟩
  | registered key =>
    have hread : (clusterName w).2 = (callStore .registration (.get key) w).2 := by
      rw [hname, hi]
      rfl
    have hanswer : (w.registration.answer (.get key)).2 = w.registration := by
      rw [ScriptedStore.answer_of_quiet hw.script]
      rfl
    rw [hread]
    refine ⟨congrArg (Prod.mk _) ?_, ?_⟩
    · have hafter : (callStore .registration (.get key) w).2.unsourced name =
          { w.unsourced name with registration := (w.registration.answer (.get key)).2 } := rfl
      rw [hafter, hanswer]
      rfl
    · refine ⟨(congrArg ScriptedStore.script hanswer).trans hw.script, ?_⟩
      have hcongr : (clusterName (callStore .registration (.get key) w).2).1 = (clusterName w).1 :=
        clusterName_congr rfl hanswer
      exact hcongr.trans hw.name

theorem answer_of_isNamed {w : Simulation k} (hw : w.IsNamed name) (q : Request k) :
    answerWith (callStore .templates) q (w.unsourced name) =
        ((answerWith (callStore .templates) q w).1,
          (answerWith (callStore .templates) q w).2.unsourced name) ∧
      (answerWith (callStore .templates) q w).2.IsNamed name := by
  have hname (w' : Simulation k) (hi : w'.identity = w.identity)
      (hr : w'.registration = w.registration) : w'.IsNamed name :=
    ⟨hr ▸ hw.script, (clusterName_congr hi hr).trans hw.name⟩
  cases q with
  | template call => exact ⟨rfl, hname _ rfl rfl⟩
  | concrete call => exact ⟨rfl, hname _ rfl rfl⟩
  | clusterName => exact clusterName_of_isNamed hw
  | now => exact ⟨rfl, hw⟩
  | pause d =>
    -- for any sum, so that nothing computes this one
    have hpaused (millis : Nat) : (((), { w.unsourced name with pausedMillis := millis }) =
          ((), ({ w with pausedMillis := millis } : Simulation k).unsourced name)) ∧
        ({ w with pausedMillis := millis } : Simulation k).IsNamed name :=
      ⟨rfl, hname _ rfl rfl⟩
    exact hpaused (w.pausedMillis + d.ceilMillis)
  | report r => exact ⟨rfl, hname _ rfl rfl⟩

theorem run_unsourced (p : Task k α) {w : Simulation k} (hw : w.IsNamed name) :
    run p (w.unsourced name) = ((run p w).1, (run p w).2.unsourced name) := by
  unfold run
  induction p generalizing w with
  | done a => rfl
  | ask q next ih =>
    obtain ⟨hanswer, hnamed⟩ := answer_of_isNamed hw q
    rw [Program.run_ask, hanswer, Program.run_ask, ih _ hnamed]

theorem run_congr_of_isNamed (p : Task k α) {w w' : Simulation k} (hw : w.IsNamed name)
    (hw' : w'.IsNamed name) (h : w.unsourced name = w'.unsourced name) :
    (run p w).1 = (run p w').1 ∧ (run p w).2.unsourced name = (run p w').2.unsourced name := by
  have hrun := run_unsourced p hw
  rw [h, run_unsourced p hw'] at hrun
  obtain ⟨hresult, hafter⟩ := Prod.mk.inj hrun
  exact ⟨hresult.symm, hafter.symm⟩

/-- Nothing disturbs the calls for templates and concrete objects. -/
structure IsCalm (w : Simulation k) : Prop where
  templates : w.templates.script = fun _ => []
  concretes : w.concretes.script = fun _ => []

theorem quiet_identifiedBy {w : Simulation k} {identity : Identity} (hw : w.IsCalm)
    (hnamed : (w.identifiedBy identity).IsNamed name) : (w.identifiedBy identity).Quiet name :=
  ⟨hw.templates, hw.concretes, hnamed.script, hnamed.name⟩

end Simulation

/-! Passes over a template that is placed on one cluster only -/
section Passes
variable {t : Template k} {w : Simulation k}

theorem ends_of_quiet (hk : k = .configMap ∨ k = .secret) (hw : w.Quiet name)
    (hfind : w.templates.store.find? t.metadata.key = some t) :
    let r := Simulation.run (reconcile t.metadata.key).run w
    ∃ t', if t.metadata.isDeleting = true ∨ t.placement.places name = false then
        r.1 = .ok () ∧ Withdrawn t.metadata.key r.2.world t t'
      else match k.mutate t.payload ((w.concretes.store.find? t.metadata.key).getD
          (.blank t.metadata.key)) with
        | .ok c => r.1 = .ok () ∧ Deployed name w.now t.metadata.key w.world r.2.world t t' c
        | .error f => r.1 = .error f ∧ Refused name w.now w.world r.2.world t t' f := by
  have hown : ∀ t', w.templates.store.find? t.metadata.key = some t' →
      t'.metadata.key = t.metadata.key := by
    intro t' ht'
    rw [hfind] at ht'
    cases ht'
    rfl
  have hpass := undisturbed_pass_converges hk hw t hown
  unfold Converges at hpass
  have hworld : w.world.templates.find? t.metadata.key = some t := hfind
  rw [hworld] at hpass
  obtain ⟨-, t', -, hends⟩ := hpass
  exact ⟨t', hends⟩

theorem find?_concretes_of_elsewhere (hk : k = .configMap ∨ k = .secret) (hw : w.Quiet name)
    (hfind : w.templates.store.find? t.metadata.key = some t)
    (helsewhere : t.placement.places name = false) :
    (Simulation.run (reconcile t.metadata.key).run w).2.concretes.store.find? t.metadata.key =
      none := by
  obtain ⟨t', hends⟩ := ends_of_quiet hk hw hfind
  rw [if_pos (.inr helsewhere)] at hends
  exact hends.2.erased

theorem exists_find?_concretes_of_placed (hk : k = .configMap ∨ k = .secret) (hw : w.Quiet name)
    (hfind : w.templates.store.find? t.metadata.key = some t)
    (hplaced : t.placement.places name = true) (hdeleting : t.metadata.isDeleting = false)
    {c : Concrete k} (hmutate : k.mutate t.payload ((w.concretes.store.find? t.metadata.key).getD
      (.blank t.metadata.key)) = .ok c) :
    ∃ o, (Simulation.run (reconcile t.metadata.key).run w).2.concretes.store.find? t.metadata.key =
      some o := by
  obtain ⟨t', hends⟩ := ends_of_quiet hk hw hfind
  have hnot : ¬(t.metadata.isDeleting = true ∨ t.placement.places name = false) := by
    simp [hplaced, hdeleting]
  rw [if_neg hnot, hmutate] at hends
  obtain ⟨version, hconcrete⟩ := hends.2.concrete
  exact ⟨_, hconcrete⟩

end Passes

/-- A checked name is taken as it stands by its configuration and without the blanks around it by
its registration. They are one name, for every placement, exactly if there are no such blanks. Then
the passes from both sources are the same but for the reading of the registration, whatever
disturbs the other calls. With such blanks, a template that is placed on the cluster by its
registered name loses its concrete object in a pass from the configuration, and gets it in one from
the registration. -/
theorem identities_agree_iff_trimmed {c : Config} {w : Simulation k}
    (hname : c.clusterName = some name) (hvalid : c.validate = .ok ())
    (hw : w.Registers key name) :
    let fixed := w.identifiedBy c.identity
    let registered := w.identifiedBy (.registered key)
    (Simulation.clusterName fixed).1 = .ok name ∧
    (Simulation.clusterName registered).1 = .ok (Text.trim name) ∧
    ((∀ p : Placement, p.places name = p.places (Text.trim name)) ↔ Text.trim name = name) ∧
    (Text.trim name = name → ∀ key',
      (Simulation.run (reconcile key').run fixed).1 =
        (Simulation.run (reconcile key').run registered).1 ∧
      (Simulation.run (reconcile key').run fixed).2.unsourced name =
        (Simulation.run (reconcile key').run registered).2.unsourced name) ∧
    (Text.trim name ≠ name → (k = .configMap ∨ k = .secret) → w.IsCalm → ∀ t : Template k,
      w.templates.store.find? t.metadata.key = some t → t.metadata.isDeleting = false →
      t.placement = ⟨[Text.trim name]⟩ →
      (Simulation.run (reconcile t.metadata.key).run fixed).2.concretes.store.find?
          t.metadata.key = none ∧
        ∀ rendered, k.mutate t.payload ((w.concretes.store.find? t.metadata.key).getD
            (.blank t.metadata.key)) = .ok rendered →
          ∃ o, (Simulation.run (reconcile t.metadata.key).run registered).2.concretes.store.find?
            t.metadata.key = some o) := by
  have hblank := Config.trim_ne_of_validate hname hvalid
  have hidentity : c.identity = .fixed name := by
    unfold Config.identity
    rw [hname]
  rw [hidentity]
  have hfixed : (w.identifiedBy (.fixed name)).IsNamed name := ⟨hw.script, rfl⟩
  have hregistered : (w.identifiedBy (.registered key)).IsNamed (Text.trim name) :=
    ⟨hw.script, Simulation.clusterName_identifiedBy_registered hw hblank⟩
  refine ⟨hfixed.name, hregistered.name, ?_, ?_, ?_⟩
  · have hne : name ≠ "" := by
      rintro rfl
      exact hblank rfl
    rw [Placement.places_congr_iff hne]
    exact eq_comm
  · intro htrim key'
    rw [htrim] at hregistered
    exact Simulation.run_congr_of_isNamed _ hfixed hregistered rfl
  · intro hne hk hcalm t hfind hdeleting hplacement
    constructor
    · apply find?_concretes_of_elsewhere hk (Simulation.quiet_identifiedBy hcalm hfixed) hfind
      rw [hplacement, Bool.eq_false_iff, ne_eq, Placement.places_iff, List.mem_singleton]
      exact fun h => hne h.2.symm
    · intro rendered hmutate
      refine exists_find?_concretes_of_placed hk
        (Simulation.quiet_identifiedBy hcalm hregistered) hfind ?_ hdeleting hmutate
      rw [hplacement, Placement.places_iff]
      exact ⟨hblank, List.mem_singleton_self _⟩

def westConfig (name : String) : Config := { (default : Config) with clusterName := some name }

def westSettings : Template .configMap := { placedSettings with placement := ⟨["west"]⟩ }

def westRegistration (name : String) : Concrete .secret where
  metadata := { name := some registrationKey.name, ns := some registrationKey.ns }
  body := SecretBody.mk (some (Dict.empty.insert registeredNameKey (Text.toUtf8 name))) none none
    none

def westCluster (name : String) : Simulation .configMap :=
  ((Simulation.start name .disabled .default .zero false).mapStore .templates
    fun s => (s.put westSettings).2).mapStore .registration
      fun s => (s.put (westRegistration name)).2

/-- The end of a line makes a cluster take down what it was to hold; without it, both sources give
the same pass. -/
theorem line_end_unplaces_west :
    let fixed (name : String) := (westCluster name).identifiedBy (westConfig name).identity
    let registered (name : String) := (westCluster name).identifiedBy (.registered registrationKey)
    ((westConfig "west").validate = .ok () ∧
      (westCluster "west").Registers registrationKey "west" ∧
      (Simulation.run (reconcile ⟨"apps", "settings"⟩).run (fixed "west")).2.unsourced "west" =
        (Simulation.run (reconcile ⟨"apps", "settings"⟩).run (registered "west")).2.unsourced
          "west") ∧
    (westConfig "west\n").validate = .ok () ∧
      (westCluster "west\n").Registers registrationKey "west\n" ∧
      (Simulation.clusterName (fixed "west\n")).1 = .ok "west\n" ∧
      (Simulation.clusterName (registered "west\n")).1 = .ok "west" ∧
      (Simulation.run (reconcile ⟨"apps", "settings"⟩).run
        (fixed "west\n")).2.concretes.store.find? ⟨"apps", "settings"⟩ = none ∧
      ∃ o, (Simulation.run (reconcile ⟨"apps", "settings"⟩).run
        (registered "west\n")).2.concretes.store.find? ⟨"apps", "settings"⟩ = some o := by
  have htrim : Text.trim "west\n" = "west" := by decide +kernel
  have htrimmed : Text.trim "west" = "west" := by decide +kernel
  have hvalid (name : String) (h : (westConfig name).fault? = none) :
      (westConfig name).validate = .ok () := by
    unfold Config.validate
    rw [h]
  have hregisters (name : String) : (westCluster name).Registers registrationKey name :=
    ⟨rfl, _, rfl, _, rfl, rfl⟩
  have hwest := hvalid "west" (by decide +kernel)
  have hline := hvalid "west\n" (by decide +kernel)
  obtain ⟨-, -, -, hsame, -⟩ :=
    identities_agree_iff_trimmed (c := westConfig "west") rfl hwest (hregisters "west")
  obtain ⟨hfixed, hregistered, -, -, hpasses⟩ :=
    identities_agree_iff_trimmed (c := westConfig "west\n") rfl hline (hregisters "west\n")
  rw [htrim] at hregistered hpasses
  obtain ⟨hpruned, hsynced⟩ := hpasses (by decide) (.inl rfl) ⟨rfl, rfl⟩
    ((Store.empty false).put westSettings).1 rfl rfl rfl
  exact ⟨⟨hwest, hregisters "west", (hsame htrimmed _).2⟩, hline, hregisters "west\n", hfixed,
    hregistered, hpruned, hsynced _ rfl⟩

end FleetSync
