/-
  Who gets in at the gateway.

  * `Gateway.answer`: the answer to a call with headers.  The gateway writes it
    to whoever calls the method by its path (`Gateway.respond_path`).
  * `Gateway.answer_of_allowed`, `Gateway.answer_of_not_allowed`,
    `Gateway.answer_of_unidentified`: what callers are answered, by what they
    may do and by whether it is known who they are.
  * `Gateway.admission`: a call gets in just if its headers say so.
-/
import CaseDesk.Gateway
import CaseDesk.Proofs.Fairness

namespace CaseDesk

namespace Gateway

/-! ## Paths -/

/-- The path of a method. -/
def path (service : ServiceName) (op : Operation) : String :=
  "/" ++ qualified service.word ++ "/" ++ service.methodWord op

theorem slash_not_mem (service : ServiceName) : '/' ∉ (qualified service.word).toList := by
  cases service <;> decide

theorem methodWord_ne (service : ServiceName) (op : Operation) :
    (service.methodWord op).toList.isEmpty = false := by
  cases service <;> cases op <;> rfl

theorem splitPath_path (service : ServiceName) (op : Operation) :
    splitPath (path service op) = some (qualified service.word, service.methodWord op) := by
  have hpath : (path service op).toList =
      '/' :: ((qualified service.word).toList ++ '/' :: (service.methodWord op).toList) := by
    simp [path]
  simp only [splitPath, hpath, Text.cutOnce_append (slash_not_mem service), methodWord_ne,
    Bool.false_eq_true, if_false, String.ofList_toList]

theorem find?_qualified (service : ServiceName) :
    ServiceName.all.find? (qualified ·.word == qualified service.word) = some service := by
  cases service <;> rfl

theorem find?_word (service : ServiceName) (op : Operation) :
    ServiceName.find? service.word (service.methodWord op) = some (service, op) := by
  cases service <;> cases op <;> rfl

/-! ## Answers -/

/-- The answer to a call with headers, and the tables after it. -/
def answer (g : Gateway) (now : Int) (headers : Headers) (call : Call) (s : Tables) :
    Except ServiceError Answer × Tables :=
  match g.auth.identify headers with
  | .error e => (.error e, s)
  | .ok caller => call.run { caller := some caller, now, limits := g.limits } s

/-- An answer as the gateway writes it. -/
def written : Except ServiceError Answer → Except Status (List UInt8)
  | .ok a => .ok (encode a)
  | .error e => .error e.status

/-- The path of a method leads to it. -/
theorem respond_path {g : Gateway} {now : Int} {headers : Headers} {call : Call}
    {body : List UInt8} {s : Tables} (h : decode call.service call.operation body = .ok call) :
    g.respond (path call.service call.operation) now headers body s =
      (written (g.answer now headers call s).1, (g.answer now headers call s).2) := by
  simp only [respond, splitPath_path, find?_qualified, respondTo, find?_word, h, answer]
  cases g.auth.identify headers with
  | error e => rfl
  | ok caller =>
    dsimp only
    rcases call.run _ s with ⟨_ | _, _⟩ <;> rfl

/-! ## Admission -/

/-- Callers who do not say who they are get in. -/
def LetsInUnknown (g : Gateway) (headers : Headers) : Prop :=
  headers.value? Headers.userId = none ∧ g.auth.allowAnonymous = true

variable {g : Gateway} {headers : Headers} {caller : Caller} {call : Call}

theorem answer_of_identified (h : g.auth.identify headers = .ok caller) (now : Int) (s : Tables) :
    g.answer now headers call s = call.run ⟨some caller, now, g.limits⟩ s := by
  rw [answer, h]

/-- A caller who is granted what the method needs gets in. -/
theorem answer_of_allowed (h : g.auth.identify headers = .ok caller)
    (hallows : caller.grants.allows call.service.objclass call.operation.access = true) (now : Int)
    (s : Tables) {e : ServiceError} (he : (g.answer now headers call s).1 = .error e) :
    ¬ e.AtDoor := by
  rw [answer_of_identified h] at he
  have hcaller : call.authorize (some caller) = .ok caller := by
    rw [Call.authorize_some, if_pos hallows]
  rcases Call.error_cases hcaller he with h | ⟨_, _, -, -, rfl, -⟩
  · exact h.not_atDoor
  · exact id

/-- A caller who is not is denied. -/
theorem answer_of_not_allowed (h : g.auth.identify headers = .ok caller)
    (hnot : caller.grants.allows call.service.objclass call.operation.access ≠ true) (now : Int)
    (s : Tables) : ∃ e, g.answer now headers call s = (.error e, s) ∧ e.AtDoor ∧
      e.status.code = .permissionDenied := by
  have hdenied := call.authorize_some caller
  rw [if_neg hnot] at hdenied
  have hanswer := (answer_of_identified h now s).trans (Call.run_of_refused hdenied s)
  exact ⟨_, hanswer, trivial, rfl⟩

theorem identify_of_unknown (h : g.LetsInUnknown headers) :
    g.auth.identify headers = .ok .anonymous :=
  Authenticator.identify_eq_ok.2 (.anonymous h.1 h.2)

/-- Who is identified neither as an unknown caller nor as a user is told so. -/
theorem answer_of_unidentified (hunknown : ¬ g.LetsInUnknown headers)
    (huser : ¬ ∃ id, headers.NamesUser id) (now : Int) (s : Tables) :
    ∃ e, g.answer now headers call s = (.error e, s) ∧ e.status.code = .unauthenticated := by
  rcases hid : g.auth.identify headers with e | caller
  · exact ⟨e, by rw [answer, hid], (Authenticator.unauthenticated_of_error hid).2⟩
  · rcases Authenticator.identify_cases hid with ⟨hid, hallow, -⟩ | ⟨hnames, -⟩
    · exact absurd ⟨hid, hallow⟩ hunknown
    · exact absurd ⟨_, hnames⟩ huser

/-- Who gets in is an unknown caller where those are let in, or a user whose headers grant what the
    method needs. -/
theorem admitted_iff (now : Int) (s : Tables) :
    (∀ e, (g.answer now headers call s).1 = .error e → ¬ e.AtDoor) ↔
      g.LetsInUnknown headers ∨ (∃ id, headers.NamesUser id) ∧
        headers.Grant call.service.objclass call.operation.access := by
  constructor
  · intro hin
    rcases hid : g.auth.identify headers with e | caller
    · have hanswer : g.answer now headers call s = (.error e, s) := by rw [answer, hid]
      exact absurd (Authenticator.unauthenticated_of_error hid).1 (hin e (by rw [hanswer]))
    by_cases hallows : caller.grants.allows call.service.objclass call.operation.access = true
    · rcases Authenticator.identify_cases hid with ⟨hid, hallow, -⟩ | ⟨hnames, hgrants⟩
      · exact Or.inl ⟨hid, hallow⟩
      · exact Or.inr ⟨⟨_, hnames⟩, (Headers.allows_grants hgrants).1 hallows⟩
    · obtain ⟨e, hanswer, hdoor, -⟩ := answer_of_not_allowed hid hallows now s
      exact absurd hdoor (hin e (by rw [hanswer]))
  · rintro (hunknown | ⟨⟨id, hnames⟩, hgrant⟩) e he
    · exact answer_of_allowed (identify_of_unknown hunknown) rfl now s he
    · obtain ⟨caller, hid, -, hgrants⟩ := Authenticator.identify_of_namesUser hnames
      exact answer_of_allowed hid ((Headers.allows_grants hgrants).2 hgrant) now s he

/-- **The gate.**  A call gets past it just if it is by an unknown caller where those are let in,
    who is then superuser, or by a user whom the headers name and whom they grant what the registry
    asks for the method.  It is then served for this caller.  Any other call is answered that its
    caller is not authenticated or is denied, and changes nothing.  The answer is what the gateway
    writes to a request for the path of the method. -/
theorem admission (g : Gateway) (now : Int) (headers : Headers) (call : Call) (s : Tables) :
    ∃ service m, Registry.method? call.service.word (call.service.methodWord call.operation) =
        some (service, m) ∧
      service.objclass = call.service.objclass ∧ m.access = call.operation.access ∧
      ((∀ e, (g.answer now headers call s).1 = .error e → ¬ e.AtDoor) ↔
        g.LetsInUnknown headers ∨
          (∃ id, headers.NamesUser id) ∧ headers.Grant service.objclass m.access) ∧
      (g.LetsInUnknown headers → ∃ caller : Caller, caller.user.id = 0 ∧
        caller.grants.superuser = true ∧
          g.answer now headers call s = call.run ⟨some caller, now, g.limits⟩ s) ∧
      (∀ id, headers.NamesUser id → headers.Grant service.objclass m.access →
        ∃ caller : Caller, caller.user.id = id ∧
          g.answer now headers call s = call.run ⟨some caller, now, g.limits⟩ s) ∧
      (¬ g.LetsInUnknown headers → (¬ ∃ id, headers.NamesUser id) → ∃ e,
        g.answer now headers call s = (.error e, s) ∧ e.status.code = .unauthenticated) ∧
      (∀ id, headers.NamesUser id → ¬ headers.Grant service.objclass m.access → ∃ e,
        g.answer now headers call s = (.error e, s) ∧ e.status.code = .permissionDenied) ∧
      ∀ body, decode call.service call.operation body = .ok call →
        g.respond (path call.service call.operation) now headers body s =
          (written (g.answer now headers call s).1, (g.answer now headers call s).2) := by
  obtain ⟨service, m, hm, hclass, haccess, -⟩ := call.service.registered call.operation
  refine ⟨service, m, hm, hclass, haccess, ?_⟩
  rw [hclass, haccess]
  refine ⟨admitted_iff now s, fun hunknown => ?_, fun id hnames _ => ?_,
    fun hunknown huser => answer_of_unidentified hunknown huser now s, fun id hnames hnot => ?_,
    fun body hbody => respond_path hbody⟩
  · exact ⟨.anonymous, rfl, rfl, answer_of_identified (identify_of_unknown hunknown) now s⟩
  · obtain ⟨caller, hid, huser, -⟩ := Authenticator.identify_of_namesUser hnames
    exact ⟨caller, huser, answer_of_identified hid now s⟩
  · obtain ⟨caller, hid, -, hgrants⟩ := Authenticator.identify_of_namesUser hnames
    obtain ⟨e, hanswer, -, hcode⟩ :=
      answer_of_not_allowed hid (fun h => hnot ((Headers.allows_grants hgrants).1 h)) now s
    exact ⟨e, hanswer, hcode⟩

/-- The headers of a user who may read dictionaries. -/
def readerHeaders : Headers :=
  [("x-webitel-user-id", " 7 "), ("X-Webitel-Access", "dictionaries:R,")].map fun (name, text) =>
    (name, text.toList.map fun c => UInt8.ofNat c.toNat)

/-- The user of `readerHeaders` may look for agreements and may not remove one; and where unknown
    callers are let in, a call without headers may. -/
theorem readerHeaders_admission :
    (∀ e, (({} : Gateway).answer 0 readerHeaders (.slas (.locate ⟨1, []⟩)) {}).1 = .error e →
      ¬ e.AtDoor) ∧
    (∃ e, ({} : Gateway).answer 0 readerHeaders (.slas (.delete ⟨1⟩)) {} = (.error e, {}) ∧
      e.status.code = .permissionDenied) ∧
    ∀ e, ((Gateway.mk ⟨true⟩ .standard).answer 0 [] (.slas (.delete ⟨1⟩)) {}).1 = .error e →
      ¬ e.AtDoor := by
  have hid : ({} : Gateway).auth.identify readerHeaders =
      .ok ⟨⟨7, ""⟩, { classes := [("dictionaries", [.read])] }⟩ := by rfl
  rcases Authenticator.identify_cases hid with ⟨-, hallow, -⟩ | ⟨hnames, hgrants⟩
  · cases hallow
  refine ⟨?_, ?_, ?_⟩
  · obtain ⟨_, _, hm, -, -, hiff, -⟩ :=
      admission {} 0 readerHeaders (.slas (.locate ⟨1, []⟩)) {}
    cases hm
    exact hiff.2 (Or.inr ⟨⟨7, hnames⟩, (Headers.allows_grants hgrants).1 rfl⟩)
  · obtain ⟨_, _, hm, -, -, -, -, -, -, hdenied, -⟩ :=
      admission {} 0 readerHeaders (.slas (.delete ⟨1⟩)) {}
    cases hm
    refine hdenied 7 hnames fun hgrant => ?_
    cases (Headers.allows_grants hgrants).2 hgrant
  · obtain ⟨_, _, -, -, -, hiff, -⟩ :=
      admission ⟨⟨true⟩, .standard⟩ 0 [] (.slas (.delete ⟨1⟩)) {}
    exact hiff.2 (Or.inl ⟨rfl, rfl⟩)

end Gateway

end CaseDesk
