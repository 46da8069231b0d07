import FleetSync.Http.Client

/-!
# What becomes of refusals

The code of a refusal decides what a call answers: an object that is not there is no failure to a
read and to a deletion, and one that names the addressed object to every other call. Only a read
goes by the reason instead of the code.
-/
namespace FleetSync.Http

variable {α : Type} [Resource α] {call : StoreCall α} {fault : ServerFault} {f : Failure}
  {reply : Reply}

/-- The reply is a refusal with this code. -/
structure Reply.Refuses (reply : Reply) (code : Nat) : Prop where
  isError : reply.isError = true
  code : reply.refusal.code = code

/-- What a call is promised to answer to a refusal. -/
inductive Promised (r : Refusal) : (call : StoreCall α) → call.Answer → Prop
  | absent (key : Key) (h : r.code = 404) : Promised r (.get key) (.ok none)
  | erased (key : Key) (h : r.code = 404) : Promised r (.delete key) (.ok ())
  | missing (call : StoreCall α) (h : r.code = 404) (hget : ∀ key, call ≠ .get key)
      (hdelete : ∀ key, call ≠ .delete key) :
      Promised r call (.error (.notFound (Resource.type α).kind call.key.ns call.key.name))
  | conflict (call : StoreCall α) (h : r.code = 409) :
      Promised r call
        (.error (.conflict ((Resource.type α).kind ++ " " ++ call.key.path ++ ": " ++ r.message)))
  | other (call : StoreCall α) (h : r.code ≠ 404) (h' : r.code ≠ 409) :
      Promised r call (.error (.server (.refused r)))

/-- What failure a fault is to a call on an object. -/
inductive Fails (kind : String) (key : Key) : ServerFault → Failure → Prop
  | missing (r : Refusal) (h : r.code = 404) :
      Fails kind key (.refused r) (.notFound kind key.ns key.name)
  | conflict (r : Refusal) (h : r.code = 409) :
      Fails kind key (.refused r) (.conflict (kind ++ " " ++ key.path ++ ": " ++ r.message))
  | other (r : Refusal) (h : r.code ≠ 404) (h' : r.code ≠ 409) :
      Fails kind key (.refused r) (.server (.refused r))
  | unrefused (fault : ServerFault) (h : ∀ r, fault ≠ .refused r) :
      Fails kind key fault (.server fault)

theorem fails_failureOf (kind : String) (key : Key) (fault : ServerFault) :
    Fails kind key fault (failureOf kind key fault) := by
  cases fault with
  | refused r =>
    by_cases h404 : r.code = 404
    · have hmissing : Fails kind key (.refused r) _ := .missing r h404
      simpa [failureOf, h404] using hmissing
    · by_cases h409 : r.code = 409
      · have hconflict : Fails kind key (.refused r) _ := .conflict r h409
        simpa [failureOf, h409] using hconflict
      · have hother : Fails kind key (.refused r) _ := .other r h404 h409
        simpa [failureOf, h404, h409] using hother
  | unreachable reason => exact .unrefused _ nofun
  | unreadable => exact .unrefused _ nofun
  | unsendable cause => exact .unrefused _ nofun
  | unconnectable cause => exact .unrefused _ nofun

section Fails
variable {kind : String} {key : Key}

theorem Fails.isNotFound_iff (h : Fails kind key fault f) :
    f.isNotFound = true ↔ ∃ r, fault = .refused r ∧ r.code = 404 := by
  cases h with
  | missing r h => simp [Failure.isNotFound, h]
  | conflict r h => simp [Failure.isNotFound, h]
  | other r h h' => simp [Failure.isNotFound]
  | unrefused fault h => cases fault <;> simp_all [Failure.isNotFound]

theorem Fails.isConflict_iff (h : Fails kind key fault f) :
    f.isConflict = true ↔ ∃ r, fault = .refused r ∧ r.code = 409 := by
  cases h with
  | missing r h => simp [Failure.isConflict, h]
  | conflict r h => simp [Failure.isConflict, h]
  | other r h h' => simp [Failure.isConflict]
  | unrefused fault h => cases fault <;> simp_all [Failure.isConflict]

theorem Fails.codes {r : Refusal} (h : Fails kind key fault (.server (.refused r))) :
    r.code ≠ 404 ∧ r.code ≠ 409 := by
  cases h with
  | other r h h' => exact ⟨h, h'⟩
  | unrefused fault h => exact (h r rfl).elim

end Fails

theorem answerOf_ok (call : StoreCall α) (reply : Reply) :
    answerOf call (.ok reply) = match valueOf call reply with
      | .ok v => .ok v
      | .error fault => answerFault call fault := rfl

theorem document_of_isError (h : reply.isError = true) :
    reply.document = .error (.refused reply.refusal) := by
  unfold Reply.document
  rw [if_pos h]

theorem valueOf_of_document_error (call : StoreCall α) (h : reply.document = .error fault) :
    valueOf call reply = .error fault := by
  have hobject : (objectOf reply : Except ServerFault α) = .error fault := by
    unfold objectOf
    rw [h]
    rfl
  have hchecked : checkDeleted α reply = .error fault := by
    unfold checkDeleted
    rw [h]
    rfl
  cases call with
  | get key => exact congrArg (Except.map some) hobject
  | create ns o => exact hobject
  | replace key o => exact hobject
  | replaceStatus key o => exact hobject
  | delete key => exact hchecked

theorem eq_unreadable_of_document {j : Json} (h : reply.document = .ok j)
    (hvalue : valueOf call reply = .error fault) : fault = .unreadable := by
  have hread (hobject : (objectOf reply : Except ServerFault α) = .error fault) :
      fault = .unreadable := by
    unfold objectOf at hobject
    rw [h] at hobject
    dsimp only [bind, Except.bind] at hobject
    split at hobject
    · cases hobject
    · cases hobject
      rfl
  cases call with
  | get key =>
    apply hread
    have hmap : (objectOf reply : Except ServerFault α).map some = .error fault := hvalue
    cases ho : (objectOf reply : Except ServerFault α) with
    | ok o =>
      rw [ho] at hmap
      cases hmap
    | error fault' =>
      rw [ho] at hmap
      cases hmap
      rfl
  | create ns o => exact hread hvalue
  | replace key o => exact hread hvalue
  | replaceStatus key o => exact hread hvalue
  | delete key =>
    have hform : ∃ isRead : Bool, checkDeleted α reply =
        if isRead then .ok () else .error .unreadable := by
      unfold checkDeleted
      rw [h]
      exact ⟨_, rfl⟩
    obtain ⟨isRead, hform⟩ := hform
    have hchecked : checkDeleted α reply = .error fault := hvalue
    rw [hform] at hchecked
    cases isRead with
    | true => cases hchecked
    | false =>
      cases hchecked
      rfl

theorem answerOf_of_isError (call : StoreCall α) (h : reply.isError = true) :
    answerOf call (.ok reply) = answerFault call (.refused reply.refusal) := by
  rw [answerOf_ok, valueOf_of_document_error call (document_of_isError h)]

theorem fault_of_valueOf (h : valueOf call reply = .error fault) :
    (reply.isError = true ∧ fault = .refused reply.refusal) ∨ fault = .unreadable := by
  cases hdocument : reply.document with
  | ok j => exact .inr (eq_unreadable_of_document hdocument h)
  | error fault' =>
    rw [valueOf_of_document_error call hdocument] at h
    cases h
    unfold Reply.document at hdocument
    split at hdocument
    · rename_i herror
      cases hdocument
      exact .inl ⟨herror, rfl⟩
    · split at hdocument
      · cases hdocument
      · cases hdocument
        exact .inr rfl

theorem answerFault_cases (call : StoreCall α) (fault : ServerFault) :
    answerFault call fault = .error (failureOf (Resource.type α).kind call.key fault) ∨
      (∃ key r, call = .get key ∧ fault = .refused r ∧ r.reason = "NotFound") ∨
      ∃ key r, call = .delete key ∧ fault = .refused r ∧ r.code = 404 := by
  unfold answerFault
  dsimp only
  split
  · rename_i key r
    split
    · rename_i hreason
      exact .inr (.inl ⟨key, r, rfl, rfl, hreason⟩)
    · exact .inl rfl
  · rename_i key r
    split
    · rename_i hcode
      exact .inr (.inr ⟨key, r, rfl, rfl, hcode⟩)
    · exact .inl rfl
  · exact .inl rfl

theorem eq_failureOf_of_answerFault (h : answerFault call fault = .error f) :
    f = failureOf (Resource.type α).kind call.key fault := by
  rcases answerFault_cases call fault with hfailure | ⟨key, r, rfl, rfl, hreason⟩ |
    ⟨key, r, rfl, rfl, hcode⟩
  · exact (Except.error.inj (hfailure.symm.trans h)).symm
  · unfold answerFault at h
    simp [hreason] at h
  · unfold answerFault at h
    simp [hcode] at h

/-- A failure is the one that is promised, unless the object of a read or of a deletion is not
there. -/
theorem promised_of_fails {r : Refusal}
    (h : Fails (Resource.type α).kind call.key (.refused r) f)
    (h404 : r.code = 404 → (∀ key, call ≠ .get key) ∧ ∀ key, call ≠ .delete key) :
    Promised r call (.error f) := by
  cases h with
  | missing r h => exact .missing call h (h404 h).1 (h404 h).2
  | conflict r h => exact .conflict call h
  | other r h h' => exact .other call h h'
  | unrefused fault h => exact (h r rfl).elim

/-- A refusal is answered as promised exactly if it is not to a read, or if its reason names an
object that is not there just when its code does. -/
theorem promised_answerFault_iff (call : StoreCall α) (r : Refusal) :
    Promised r call (answerFault call (.refused r)) ↔
      ∀ key, call = .get key → (r.reason = "NotFound" ↔ r.code = 404) := by
  have hfails := fails_failureOf (Resource.type α).kind call.key (.refused r)
  cases call with
  | create ns o => exact iff_of_true (promised_of_fails hfails fun _ => ⟨nofun, nofun⟩) nofun
  | replace key o => exact iff_of_true (promised_of_fails hfails fun _ => ⟨nofun, nofun⟩) nofun
  | replaceStatus key o =>
    exact iff_of_true (promised_of_fails hfails fun _ => ⟨nofun, nofun⟩) nofun
  | delete key =>
    refine iff_of_true ?_ nofun
    unfold answerFault
    dsimp only
    split
    · rename_i h404
      exact .erased key h404
    · rename_i h404
      exact promised_of_fails hfails fun h => (h404 h).elim
  | get key =>
    have habsent : Promised r (.get key : StoreCall α) (.ok none) ↔ r.code = 404 :=
      ⟨fun h => by cases h; assumption, fun h => .absent key h⟩
    have hfailure : Promised r (.get key : StoreCall α)
        (.error (failureOf (Resource.type α).kind key (.refused r))) ↔ r.code ≠ 404 := by
      constructor
      · intro h h404
        generalize failureOf (Resource.type α).kind key (.refused r) = f at h
        cases h with
        | missing _ _ hget hdelete => exact hget key rfl
        | conflict _ h409 => omega
        | other _ hne h' => exact hne h404
      · intro h404
        exact promised_of_fails hfails fun h => (h404 h).elim
    unfold answerFault
    dsimp only
    split
    · rename_i hreason
      rw [habsent]
      simp [hreason]
    · rename_i hreason
      refine hfailure.trans ?_
      simp [hreason]

/-! Objects that are not there -/
section Absent

theorem failureOf_of_absent {r : Refusal} (kind : String) (key : Key) (h : r.code = 404) :
    failureOf kind key (.refused r) = .notFound kind key.ns key.name := by
  unfold failureOf
  exact if_pos h

theorem answerOf_of_absent (hreply : reply.Refuses 404) (hget : ∀ key, call ≠ .get key)
    (hdelete : ∀ key, call ≠ .delete key) : answerOf call (.ok reply) =
      .error (.notFound (Resource.type α).kind call.key.ns call.key.name) := by
  rw [answerOf_of_isError call hreply.isError]
  rcases answerFault_cases call (.refused reply.refusal) with h | ⟨key, r, hcall, -⟩ |
    ⟨key, r, hcall, -⟩
  · rw [h, failureOf_of_absent _ _ hreply.code]
  · exact (hget key hcall).elim
  · exact (hdelete key hcall).elim

theorem answerOf_get_of_absent (key : Key) (hreply : reply.Refuses 404) :
    answerOf (.get key : StoreCall α) (.ok reply) =
      if reply.refusal.reason = "NotFound" then .ok none
      else .error (.notFound (Resource.type α).kind key.ns key.name) := by
  rw [answerOf_of_isError _ hreply.isError]
  unfold answerFault
  dsimp only
  rw [failureOf_of_absent _ _ hreply.code]
  rfl

end Absent

/-! Failures of calls -/

/-- What a failure says about the reply that was received, if there was one. -/
structure Classified (f : Failure) (received : Reply → Prop) : Prop where
  raw : ∀ r, f = .server (.refused r) → r.code ≠ 404 ∧ r.code ≠ 409
  isNotFound_iff : f.isNotFound = true ↔ ∃ reply, received reply ∧ reply.Refuses 404
  isConflict_iff : f.isConflict = true ↔ ∃ reply, received reply ∧ reply.Refuses 409
  apart : ¬(f.isNotFound = true ∧ f.isConflict = true)

section Perform
variable {σ : Type} {exchange : Request → StateM σ Outcome} {manager : String} {s : σ}

/-- A call was sent, and this is the reply to it. -/
def Received (exchange : Request → StateM σ Outcome) (manager : String) (call : StoreCall α)
    (s : σ) (reply : Reply) : Prop :=
  ∃ request, requestOf manager call = .ok request ∧ (exchange request s).1 = .ok reply

theorem perform_of_received (h : Received exchange manager call s reply) :
    (perform exchange manager call s).1 = answerOf call (.ok reply) := by
  obtain ⟨request, hrequest, hreply⟩ := h
  unfold perform
  rw [hrequest, ← hreply]
  rfl

theorem exists_fault_of_perform (h : (perform exchange manager call s).1 = .error f) :
    ∃ fault, Fails (Resource.type α).kind call.key fault f ∧
      ∀ r, fault = .refused r ↔ ∃ reply, Received exchange manager call s reply ∧
        reply.isError = true ∧ reply.refusal = r := by
  have hfails {fault : ServerFault} (h : answerFault call fault = .error f) :
      Fails (Resource.type α).kind call.key fault f := by
    rw [eq_failureOf_of_answerFault h]
    exact fails_failureOf _ _ _
  cases hrequest : requestOf manager call with
  | error cause =>
    unfold perform at h
    rw [hrequest] at h
    refine ⟨.unsendable cause, hfails h, fun r => iff_of_false nofun ?_⟩
    rintro ⟨reply, ⟨request, hrequest', -⟩, -⟩
    cases hrequest.symm.trans hrequest'
  | ok request =>
    have hanswer : answerOf call (exchange request s).1 = .error f := by
      unfold perform at h
      rw [hrequest] at h
      exact h
    have houtcome {reply : Reply} (h : Received exchange manager call s reply) :
        (exchange request s).1 = .ok reply := by
      obtain ⟨request', hrequest', hreply⟩ := h
      cases hrequest.symm.trans hrequest'
      exact hreply
    cases hreply : (exchange request s).1 with
    | error reason =>
      rw [hreply] at hanswer
      refine ⟨.unreachable reason, hfails hanswer, fun r => iff_of_false nofun ?_⟩
      rintro ⟨reply, hreceived, -⟩
      cases hreply.symm.trans (houtcome hreceived)
    | ok reply =>
      rw [hreply, answerOf_ok] at hanswer
      cases hvalue : valueOf call reply with
      | ok v =>
        rw [hvalue] at hanswer
        cases hanswer
      | error fault =>
        rw [hvalue] at hanswer
        refine ⟨fault, hfails hanswer, fun r => ⟨?_, ?_⟩⟩
        · rintro rfl
          rcases fault_of_valueOf hvalue with ⟨herror, hr⟩ | hr
          · cases hr
            exact ⟨reply, ⟨request, hrequest, hreply⟩, herror, rfl⟩
          · cases hr
        · rintro ⟨reply', hreceived, herror, rfl⟩
          cases hreply.symm.trans (houtcome hreceived)
          rw [valueOf_of_document_error call (document_of_isError herror)] at hvalue
          exact (Except.error.inj hvalue).symm

/-- The code of the refusal that was received can be told from the failure, and nothing else can be
taken for it. -/
theorem classified_of_perform (h : (perform exchange manager call s).1 = .error f) :
    Classified f (Received exchange manager call s) := by
  obtain ⟨fault, hfails, hfault⟩ := exists_fault_of_perform h
  have hcode (code : Nat) : (∃ r, fault = .refused r ∧ r.code = code) ↔
      ∃ reply, Received exchange manager call s reply ∧ reply.Refuses code := by
    constructor
    · rintro ⟨r, hr, hcode⟩
      obtain ⟨reply, hreceived, herror, rfl⟩ := (hfault r).1 hr
      exact ⟨reply, hreceived, herror, hcode⟩
    · rintro ⟨reply, hreceived, herror, hcode⟩
      exact ⟨reply.refusal, (hfault _).2 ⟨reply, hreceived, herror, rfl⟩, hcode⟩
  refine ⟨?_, ?_, ?_, ?_⟩
  · intro r hr
    rw [hr] at hfails
    exact hfails.codes
  · rw [hfails.isNotFound_iff, hcode]
  · rw [hfails.isConflict_iff, hcode]
  · rintro ⟨hmissing, hconflict⟩
    obtain ⟨r, rfl, h404⟩ := hfails.isNotFound_iff.1 hmissing
    obtain ⟨r', hr, h409⟩ := hfails.isConflict_iff.1 hconflict
    cases hr
    omega

end Perform

end FleetSync.Http
