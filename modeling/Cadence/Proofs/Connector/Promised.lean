/-
# What a connector makes of an exchange

What becomes of a delivery over a connector is listed once, by what came of the request and by what
can be read of the body (`Settled`, `settled_replyTo`). Everything else is read off that list.

A connector promises an object or a failure of the service, whose type the exchange decides
(`failureType?`). It keeps the promise exactly for the exchanges that it can read
(`answers_as_promised_iff`): it looks into every body but those of three status codes, and a body
that is a value without members, or nested too deep, is a failure of another kind.

A response counts as a success unless its status code is one of a failure. So a connector also
confirms what was only redirected (`confirms_iff`), and the node that asked for it succeeds.

Key definitions: `Http.Exchange.IsLegible`, `Connector.Keeps`, `Connector.Settled`.
Key theorems: `Connector.settled_replyTo`, `Connector.deliver?_posted`,
`Connector.answers_as_promised_iff`, `Connector.confirms_iff`.
-/
import Cadence.Connector.Channel
import Cadence.Proofs.Run.Ran

namespace Cadence

open Http

/-! ### Exchanges -/

namespace Http

/-- Something can be looked up in what a response says. -/
def Response.IsRecord (r : Response) : Prop := ∃ fields, r.content = .ok (.obj fields)

/-- The status codes that decide without the body. -/
def plainRefusals : List Nat := [401, 403, 429]

/-- An exchange in which there is nothing that a connector cannot read: if a response came, its body
is not nested too deep, and is an object or no JSON unless the status code decides alone. -/
def Exchange.IsLegible : Http.Exchange → Prop
  | .received r => r.IsRecord ∨ r.status ∈ plainRefusals ∧ ∃ value, r.content = .ok value
  | _ => True

/-- A response that says that the request was carried out. -/
def Exchange.IsAccepted : Http.Exchange → Prop
  | .received r => 200 ≤ r.status ∧ r.status < 300
  | _ => False

/-- A response with a record whose status code is neither that of a success nor that of a
failure. -/
def Exchange.IsDiverted : Http.Exchange → Prop
  | .received r => r.IsRecord ∧ (r.status < 200 ∨ 300 ≤ r.status ∧ r.status < 400)
  | _ => False

/-- What comes of a request depends on the request as the network keeps it. -/
theorem Network.post_congr {r r' : Request} {n : Network}
    (h : (n.post r).2 = (n.post r').2) : (n.post r).1 = (n.post r').1 := by
  have hkept : n.requests ++ [{ r with address := r.address.resolvedAt .nowhere }] =
      n.requests ++ [{ r' with address := r'.address.resolvedAt .nowhere }] :=
    congrArg Network.requests h
  have hsame := List.singleton_inj.1 (List.append_cancel_left hkept)
  have haddress : r.address.resolvedAt .nowhere = r'.address.resolvedAt .nowhere :=
    congrArg Request.address hsame
  unfold Network.post
  dsimp only
  rw [haddress]

end Http

namespace Connector

/-- The type of the failure with which an exchange has to end, if it has to. -/
def failureType? : Http.Exchange → Option String
  | .timedOut => some "timeout"
  | .broken _ => some "connector_error"
  | .received r =>
    if r.status = 429 then some "rate_limit"
    else if r.status = 401 ∨ r.status = 403 then some "permission_denied"
    else if 400 ≤ r.status then some "connector_error"
    else none

theorem failureType?_received (r : Response) : failureType? (.received r) =
    if r.status = 429 then some "rate_limit"
    else if r.status = 401 ∨ r.status = 403 then some "permission_denied"
    else if 400 ≤ r.status then some "connector_error"
    else none := rfl

/-- A reply is what connectors promise for an exchange: a failure of the service with the type that
goes with it, and else an object. -/
def Keeps (e : Http.Exchange) (reply : Reply) : Prop :=
  match failureType? e with
  | some type => ∃ message, reply = .failed (.service message type)
  | none => ∃ receipt, reply = .returned (.obj receipt)

/-! ### What comes of an exchange -/

/-- What a provider's connector makes of an exchange. -/
inductive Settled (p : Provider) : Http.Exchange → Reply → Prop
  | late : Settled p .timedOut (.failed (.service (p.name ++ " request timed out") "timeout"))
  | broken (message : String) : Settled p (.broken message)
      (.failed (.service (p.name ++ " request failed: " ++ message) "connector_error"))
  | deep {r : Response} {isList : Bool} : r.content = .error (tooDeep isList) →
      Settled p (.received r) (.failed (tooDeep isList))
  | limited {r : Response} {value : Json} : r.content = .ok value → r.status = 429 →
      Settled p (.received r) (.failed (.service (p.name ++ " rate limit hit") "rate_limit"))
  | rejected {r : Response} {value : Json} : r.content = .ok value →
      r.status = 401 ∨ r.status = 403 →
      Settled p (.received r)
        (.failed (.service (p.name ++ " rejected the credentials") "permission_denied"))
  | refused {r : Response} {fields : Json.Fields} {message : String} :
      r.content = .ok (.obj fields) → r.status ∉ plainRefusals → 400 ≤ r.status →
      Settled p (.received r) (.failed (.service message "connector_error"))
  | illegible {r : Response} {value : Json} {text : String} : r.content = .ok value →
      (∀ fields, value ≠ .obj fields) → r.status ∉ plainRefusals →
      Settled p (.received r) (.failed (.other "AttributeError" text))
  | confirmed {r : Response} {fields : Json.Fields} : r.content = .ok (.obj fields) →
      r.status < 400 → Settled p (.received r) (.returned (.obj (p.receipt fields)))

/-- The reply of a provider's connector to an exchange. -/
def Provider.replyTo (p : Provider) (e : Http.Exchange) : Reply :=
  match p.receiptFor (.ok e) with
  | .ok receipt => .returned receipt
  | .error failure => .failed failure

/-- The only failure to read a body is its depth. -/
theorem content_eq_error {r : Response} {f : Failure} (h : r.content = .error f) :
    ∃ isList, f = tooDeep isList := by
  unfold Response.content at h
  split at h
  · cases h
  · rename_i isList _
    cases h
    exact ⟨isList, rfl⟩
  · cases h

theorem membersOf_eq_error {value : Json} (h : ∀ fields, value ≠ .obj fields) :
    ∃ text, membersOf value = .error (.other "AttributeError" text) := by
  unfold membersOf
  split
  · exact absurd rfl (h _)
  · exact ⟨_, rfl⟩

section

variable {r : Response} {value : Json} (hcontent : r.content = .ok value)
include hcontent

/-- A response in the order in which it is looked at: the status codes that need no body first. -/
theorem settleResponse_eq (name : String) : settleResponse name r =
    if r.status = 429 then .error (.service (name ++ " rate limit hit") "rate_limit")
    else if r.status = 401 ∨ r.status = 403 then
      .error (.service (name ++ " rejected the credentials") "permission_denied")
    else if 400 ≤ r.status then
      detail r value >>= fun detail => .error (.service
        (name ++ " API error " ++ toString r.status ++ ": " ++ detail.display) "connector_error")
    else .ok value := by
  have hbody : settleResponse name r = (do
      if r.status = 429 then throw (.service (name ++ " rate limit hit") "rate_limit")
      if r.status = 401 ∨ r.status = 403 then
        throw (.service (name ++ " rejected the credentials") "permission_denied")
      if 400 ≤ r.status then
        let detail ← detail r value
        throw (.service (name ++ " API error " ++ toString r.status ++ ": " ++ detail.display)
          "connector_error")
      return value) := by
    unfold settleResponse
    rw [hcontent]
    rfl
  rw [hbody]
  by_cases hlimited : r.status = 429
  · rw [if_pos hlimited, if_pos hlimited]
    rfl
  rw [if_neg hlimited, if_neg hlimited]
  by_cases hrejected : r.status = 401 ∨ r.status = 403
  · rw [if_pos hrejected, if_pos hrejected]
    rfl
  rw [if_neg hrejected, if_neg hrejected]
  by_cases hrefused : 400 ≤ r.status
  · rw [if_pos hrefused, if_pos hrefused]
    cases detail r value <;> rfl
  · rw [if_neg hrefused, if_neg hrefused]
    rfl

end

theorem replyTo_received (p : Provider) (r : Response) : p.replyTo (.received r) =
    match settleResponse p.name r with
    | .error f => .failed f
    | .ok content =>
      match membersOf content with
      | .error f => .failed f
      | .ok fields => .returned (.obj (p.receipt fields)) := by
  have hreceipt : p.receiptFor (.ok (.received r)) = settleResponse p.name r >>= fun content =>
      membersOf content >>= fun fields => .ok (.obj (p.receipt fields)) := rfl
  unfold Provider.replyTo
  rw [hreceipt]
  cases settleResponse p.name r with
  | error f => rfl
  | ok content =>
    dsimp only [bind, Except.bind]
    cases membersOf content <;> rfl

/-- **What becomes of an exchange is on the list.** The cases are those of the status code, and
behind those that decide alone, those of the body. -/
theorem settled_replyTo (p : Provider) (e : Http.Exchange) : Settled p e (p.replyTo e) := by
  cases e with
  | timedOut => exact .late
  | broken message => exact .broken message
  | received r =>
    rw [replyTo_received]
    cases hcontent : r.content with
    | error f =>
      obtain ⟨isList, rfl⟩ := content_eq_error hcontent
      have hdeep : settleResponse p.name r = .error (tooDeep isList) := by
        unfold settleResponse
        rw [hcontent]
        rfl
      rw [hdeep]
      exact .deep hcontent
    | ok value =>
      rw [settleResponse_eq hcontent]
      by_cases hlimited : r.status = 429
      · rw [if_pos hlimited]
        exact .limited hcontent hlimited
      by_cases hrejected : r.status = 401 ∨ r.status = 403
      · rw [if_neg hlimited, if_pos hrejected]
        exact .rejected hcontent hrejected
      rw [if_neg hlimited, if_neg hrejected]
      have hplain : r.status ∉ plainRefusals := by
        simp only [plainRefusals, List.mem_cons, List.not_mem_nil, or_false]
        tauto
      by_cases hobj : ∃ fields, value = .obj fields
      · obtain ⟨fields, rfl⟩ := hobj
        by_cases hrefused : 400 ≤ r.status
        · rw [if_pos hrefused]
          exact .refused hcontent hplain hrefused
        · rw [if_neg hrefused]
          exact .confirmed hcontent (Nat.lt_of_not_le hrefused)
      · obtain ⟨text, hmembers⟩ := membersOf_eq_error (not_exists.1 hobj)
        have hill : Settled p (.received r) (.failed (.other "AttributeError" text)) :=
          .illegible hcontent (not_exists.1 hobj) hplain
        unfold detail
        rw [hmembers]
        by_cases hrefused : 400 ≤ r.status
        · rw [if_pos hrefused]
          exact hill
        · rw [if_neg hrefused]
          dsimp only
          rw [hmembers]
          exact hill

variable {p : Provider} {e : Http.Exchange} {reply : Reply}

theorem not_keeps_other (e : Http.Exchange) (name text : String) :
    ¬ Keeps e (.failed (.other name text)) := by
  unfold Keeps
  split
  · rintro ⟨message, h⟩
    cases h
  · rintro ⟨receipt, h⟩
    cases h

/-- The two ways to settle an exchange: as promised, for one that can be read, or with a failure
that is none of the service. -/
theorem Settled.keeps_or (h : Settled p e reply) : Keeps e reply ∧ e.IsLegible ∨
    (∃ name text, reply = .failed (.other name text)) ∧ ¬ e.IsLegible := by
  unfold Keeps
  cases h with
  | late => exact Or.inl ⟨⟨_, rfl⟩, trivial⟩
  | broken message => exact Or.inl ⟨⟨_, rfl⟩, trivial⟩
  | deep hcontent =>
    refine Or.inr ⟨⟨_, _, rfl⟩, ?_⟩
    rintro (⟨fields, hrecord⟩ | ⟨-, value, hvalue⟩)
    · exact absurd (hcontent.symm.trans hrecord) (by simp)
    · exact absurd (hcontent.symm.trans hvalue) (by simp)
  | @limited r value hcontent hstatus =>
    have htype : failureType? (.received r) = some "rate_limit" := by
      rw [failureType?_received, if_pos hstatus]
    have hmem : r.status ∈ plainRefusals := by simp [plainRefusals, hstatus]
    rw [htype]
    exact Or.inl ⟨⟨_, rfl⟩, Or.inr ⟨hmem, _, hcontent⟩⟩
  | @rejected r value hcontent hstatus =>
    have htype : failureType? (.received r) = some "permission_denied" := by
      rw [failureType?_received, if_neg (by omega), if_pos hstatus]
    have hmem : r.status ∈ plainRefusals := by
      rcases hstatus with hstatus | hstatus <;> simp [plainRefusals, hstatus]
    rw [htype]
    exact Or.inl ⟨⟨_, rfl⟩, Or.inr ⟨hmem, _, hcontent⟩⟩
  | @refused r fields message hcontent hplain hstatus =>
    have htype : failureType? (.received r) = some "connector_error" := by
      simp only [plainRefusals, List.mem_cons, List.not_mem_nil, or_false, not_or] at hplain
      rw [failureType?_received, if_neg hplain.2.2, if_neg (by omega), if_pos hstatus]
    rw [htype]
    exact Or.inl ⟨⟨_, rfl⟩, Or.inl ⟨_, hcontent⟩⟩
  | illegible hcontent hobj hplain =>
    refine Or.inr ⟨⟨_, _, rfl⟩, ?_⟩
    rintro (⟨fields, hrecord⟩ | ⟨hmem, -⟩)
    · exact hobj fields (Except.ok.inj (hcontent.symm.trans hrecord))
    · exact hplain hmem
  | @confirmed r fields hcontent hstatus =>
    have htype : failureType? (.received r) = none := by
      rw [failureType?_received, if_neg (by omega), if_neg (by omega), if_neg (by omega)]
    rw [htype]
    exact Or.inl ⟨⟨_, rfl⟩, Or.inl ⟨_, hcontent⟩⟩

/-- A response is confirmed if it has a record and no status code of a failure. -/
theorem Settled.isReturned_iff (h : Settled p e reply) : reply.isReturned = true ↔
    ∃ r, e = .received r ∧ r.IsRecord ∧ r.status < 400 := by
  cases h with
  | confirmed hcontent hstatus =>
    exact iff_of_true rfl ⟨_, rfl, ⟨_, hcontent⟩, hstatus⟩
  | late | broken =>
    refine iff_of_false Bool.false_ne_true ?_
    rintro ⟨r, hr, -⟩
    cases hr
  | deep hcontent =>
    refine iff_of_false Bool.false_ne_true ?_
    rintro ⟨r, hr, ⟨fields, hrecord⟩, -⟩
    cases hr
    exact absurd (hcontent.symm.trans hrecord) (by simp)
  | illegible hcontent hobj =>
    refine iff_of_false Bool.false_ne_true ?_
    rintro ⟨r, hr, ⟨fields, hrecord⟩, -⟩
    cases hr
    exact hobj fields (Except.ok.inj (hcontent.symm.trans hrecord))
  | limited hcontent hstatus | rejected hcontent hstatus | refused hcontent hplain hstatus =>
    refine iff_of_false Bool.false_ne_true ?_
    rintro ⟨r, hr, -, hlow⟩
    cases hr
    omega

/-- The step of the node that ordered a delivery succeeds exactly if the delivery is confirmed. -/
theorem Settled.success_iff (h : Settled p e reply) (context : Context) (node : Chain.Node)
    (order : Order) : (Cadence.settle context node order reply).1.status = .success ↔
      reply.isReturned = true := by
  cases h with
  | confirmed hcontent hstatus =>
    rw [settle_obj]
    exact iff_of_true rfl rfl
  | late | broken | deep | limited | rejected | refused | illegible =>
    exact iff_of_false (fun hfailed => Outcome.noConfusion hfailed) Bool.false_ne_true

/-! ### Deliveries over a connector -/

/-- A delivery makes one request, if it has an address. -/
theorem Provider.deliver_snd {address : String} {request : Address → Request} {n : Network}
    {a : Address} (h : Address.read address = .ok a) :
    (p.deliver address request n).2 = (n.post (request a)).2 := by
  unfold Provider.deliver
  rw [h]
  dsimp only
  split <;> rfl

/-- **A delivery over a connector is settled by what comes of its request.** The request is the one
that the network keeps. -/
theorem Provider.deliver_posted {address : String} {request : Address → Request} {n : Network}
    {r : Request} (h : n.post r = (.ok e, (p.deliver address request n).2)) :
    (p.deliver address request n).1 = p.replyTo e := by
  cases haddress : Address.read address with
  | error flaw =>
    -- nothing was posted, so the network would have one request more than it has
    unfold Provider.deliver at h
    rw [haddress] at h
    have hkept : (n.requests ++ [_]).length = n.requests.length :=
      congrArg (fun x => x.2.requests.length) h
    rw [List.length_append, List.length_singleton] at hkept
    omega
  | ok a =>
    have hafter : n.post r = (.ok e, (n.post (request a)).2) := by
      rw [h, Provider.deliver_snd haddress]
    have hkept : (n.post (request a)).2 = (n.post r).2 := by
      rw [hafter]
    have hcame : (n.post (request a)).1 = .ok e := by
      rw [Network.post_congr hkept, hafter]
    unfold Provider.deliver Provider.replyTo
    rw [haddress]
    dsimp only
    rw [hcame]
    cases p.receiptFor (.ok e) <;> rfl

/-- The kind of delivery that a connector makes. -/
def action : Connector → Action
  | email _ => .email
  | sms _ => .sms

/-- The provider of a connector. -/
def provider : Connector → Provider
  | email _ => Mailgun.provider
  | sms _ => Twilio.provider

/-- A connector makes every delivery of its kind by a request of its provider. -/
theorem deliver?_eq (c : Connector) {d : Delivery} (hd : d.action = c.action) (n : Network) :
    ∃ address request, c.deliver? d n = some (c.provider.deliver address request n) := by
  cases c with
  | email domain =>
    cases d with
    | email receiver subject body =>
      exact ⟨domain.address, domain.request receiver subject body, rfl⟩
    | sms | handoff => cases hd
  | sms account =>
    cases d with
    | sms receiver message => exact ⟨account.address, account.request receiver message, rfl⟩
    | email | handoff => cases hd

/-- **What comes of its request settles a delivery.** -/
theorem deliver?_settled (c : Connector) {d : Delivery} (hd : d.action = c.action) (n : Network) :
    ∃ reply n', c.deliver? d n = some (reply, n') ∧
      ∀ r e, n.post r = (.ok e, n') → Settled c.provider e reply := by
  obtain ⟨address, request, hdeliver⟩ := deliver?_eq c hd n
  generalize hmade : c.provider.deliver address request n = made at hdeliver
  refine ⟨made.1, made.2, hdeliver, fun r e h => ?_⟩
  rw [← hmade] at h ⊢
  rw [Provider.deliver_posted h]
  exact settled_replyTo c.provider e

/-! ### A text message -/

namespace Sample

/-- An account that sends from a number. -/
def account : Twilio := ⟨"AC123", "secret", "+15550001111", ""⟩

/-- The receiver of a message. -/
def receiver : Json := .str "+32470000000"

/-- What the message says. -/
def text : Json := .str "Hi Ada"

/-- The address that takes the messages of the account. -/
def address : Address :=
  ⟨"https", "", "api.twilio.com", none, "/2010-04-01/Accounts/AC123/Messages.json", none, none⟩

/-- A network with one response to every request. -/
def network (r : Response) : Network := .fresh [.ok (.received r)]

/-- The message. -/
def message : Delivery := .sms receiver text

/-- What becomes of the message when a response comes. -/
def sent (r : Response) : Reply × Network := account.deliver receiver text (network r)

theorem deliver?_message (r : Response) :
    (Connector.sms account).deliver? message (network r) = some (sent r) := rfl

theorem posted (r : Response) : (network r).post (account.request receiver text address) =
    (.ok (.received r), (sent r).2) := by
  have hread : Address.read account.address = .ok address := by decide +kernel
  have hcomplete : (address.resolvedAt .nowhere).isComplete = true := by decide +kernel
  have hafter : (sent r).2 = ((network r).post (account.request receiver text address)).2 :=
    Provider.deliver_snd hread
  refine Prod.ext ?_ hafter.symm
  show Network.taken (address.resolvedAt .nowhere) (.ok (.received r)) = .ok (.received r)
  simp only [Network.taken, hcomplete, if_true]

end Sample

/-- **A connector keeps its promise exactly for the exchanges that it can read.** Whatever comes of
the request of a delivery, the reply is a failure of the service with the type that goes with it, or
an object, if and only if there is nothing in the exchange that the connector cannot read; else it
is a failure of another kind. -/
theorem answers_as_promised_iff (c : Connector) {d : Delivery} (hd : d.action = c.action)
    (n : Network) : ∃ reply n', c.deliver? d n = some (reply, n') ∧
      ∀ (r : Request) (e : Http.Exchange), n.post r = (.ok e, n') →
        (Keeps e reply ↔ e.IsLegible) ∧
        (¬ e.IsLegible → ∃ name text, reply = .failed (.other name text)) := by
  obtain ⟨reply, n', hdeliver, hsettled⟩ := deliver?_settled c hd n
  refine ⟨reply, n', hdeliver, fun r e hpost => ?_⟩
  rcases (hsettled r e hpost).keeps_or with ⟨hkeeps, hlegible⟩ | ⟨⟨name, text, rfl⟩, hillegible⟩
  · exact ⟨iff_of_true hkeeps hlegible, fun hnot => absurd hlegible hnot⟩
  · exact ⟨iff_of_false (not_keeps_other e name text) hillegible, fun _ => ⟨name, text, rfl⟩⟩

/-- A refusal that is no JSON becomes a failure of the service. -/
theorem answers_as_promised_iff_plain_text :
    Sample.message.action = (Connector.sms Sample.account).action ∧
      (Sample.network ⟨404, "not found"⟩).post
          (Sample.account.request Sample.receiver Sample.text Sample.address) =
        (.ok (.received ⟨404, "not found"⟩), (Sample.sent ⟨404, "not found"⟩).2) ∧
      (Http.Exchange.received ⟨404, "not found"⟩).IsLegible ∧
      Keeps (.received ⟨404, "not found"⟩) (Sample.sent ⟨404, "not found"⟩).1 := by
  have hposted := Sample.posted ⟨404, "not found"⟩
  have hlegible : (Http.Exchange.received ⟨404, "not found"⟩).IsLegible :=
    Or.inl ⟨[("message", .str "not found")], by decide +kernel⟩
  obtain ⟨reply, n', hdeliver, hall⟩ := answers_as_promised_iff (.sms Sample.account)
    (d := Sample.message) rfl (Sample.network ⟨404, "not found"⟩)
  have hsent : Sample.sent ⟨404, "not found"⟩ = (reply, n') :=
    Option.some.inj ((Sample.deliver?_message _).symm.trans hdeliver)
  rw [hsent] at hposted ⊢
  exact ⟨rfl, hposted, hlegible, (hall _ _ hposted).1.2 hlegible⟩

/-- **A list breaks the promise**: the connector looks for a message in it and fails for having
looked. -/
theorem list_breaks_promise :
    (Sample.network ⟨500, "[]"⟩).post
        (Sample.account.request Sample.receiver Sample.text Sample.address) =
      (.ok (.received ⟨500, "[]"⟩), (Sample.sent ⟨500, "[]"⟩).2) ∧
    (Sample.sent ⟨500, "[]"⟩).1 =
      .failed (.other "AttributeError" "'list' object has no attribute 'get'") ∧
    ¬ Keeps (.received ⟨500, "[]"⟩) (Sample.sent ⟨500, "[]"⟩).1 := by
  have hreply : (Sample.sent ⟨500, "[]"⟩).1 =
      .failed (.other "AttributeError" "'list' object has no attribute 'get'") := by
    decide +kernel
  refine ⟨Sample.posted _, hreply, ?_⟩
  rw [hreply]
  exact not_keeps_other _ _ _

/-- **A connector confirms what was not refused.** Whatever comes of the request of a delivery, the
delivery is confirmed if and only if a response came that has a record and no status code of a
failure, and so is the step of the node that ordered it. So a confirmation means that the request
was carried out exactly for the exchanges that were not diverted. -/
theorem confirms_iff (c : Connector) {d : Delivery} (hd : d.action = c.action) (n : Network) :
    ∃ reply n', c.deliver? d n = some (reply, n') ∧
      ∀ (r : Request) (e : Http.Exchange), n.post r = (.ok e, n') →
        (reply.isReturned = true ↔ ∃ r, e = .received r ∧ r.IsRecord ∧ r.status < 400) ∧
        (∀ (context : Context) (node : Chain.Node) (order : Order),
          (Cadence.settle context node order reply).1.status = .success ↔
            reply.isReturned = true) ∧
        ((reply.isReturned = true → e.IsAccepted) ↔ ¬ e.IsDiverted) := by
  obtain ⟨reply, n', hdeliver, hsettled⟩ := deliver?_settled c hd n
  refine ⟨reply, n', hdeliver, fun r e hpost => ?_⟩
  have hreturned := (hsettled r e hpost).isReturned_iff
  refine ⟨hreturned, (hsettled r e hpost).success_iff, ?_, ?_⟩
  · intro haccepted hdiverted
    cases e with
    | timedOut | broken => exact hdiverted
    | received response =>
      obtain ⟨hrecord, hstatus⟩ := hdiverted
      have hsuccess : 200 ≤ response.status ∧ response.status < 300 :=
        haccepted (hreturned.2 ⟨response, rfl, hrecord, by omega⟩)
      omega
  · intro hdiverted hconfirmed
    obtain ⟨response, rfl, hrecord, hlow⟩ := hreturned.1 hconfirmed
    have hsuccess : ¬ (response.status < 200 ∨ 300 ≤ response.status ∧ response.status < 400) :=
      fun hstatus => hdiverted ⟨hrecord, hstatus⟩
    show 200 ≤ response.status ∧ response.status < 300
    omega

/-- A message that was accepted is confirmed, and the response says so. -/
theorem confirms_iff_created :
    Sample.message.action = (Connector.sms Sample.account).action ∧
      (Sample.network ⟨201, "\x7b\x7d"⟩).post
          (Sample.account.request Sample.receiver Sample.text Sample.address) =
        (.ok (.received ⟨201, "\x7b\x7d"⟩), (Sample.sent ⟨201, "\x7b\x7d"⟩).2) ∧
      (Sample.sent ⟨201, "\x7b\x7d"⟩).1.isReturned = true ∧
      (Http.Exchange.received ⟨201, "\x7b\x7d"⟩).IsAccepted := by
  have hposted := Sample.posted ⟨201, "\x7b\x7d"⟩
  obtain ⟨reply, n', hdeliver, hall⟩ := confirms_iff (.sms Sample.account)
    (d := Sample.message) rfl (Sample.network ⟨201, "\x7b\x7d"⟩)
  have hsent : Sample.sent ⟨201, "\x7b\x7d"⟩ = (reply, n') :=
    Option.some.inj ((Sample.deliver?_message _).symm.trans hdeliver)
  rw [hsent] at hposted ⊢
  obtain ⟨hreturned, -, haccepted⟩ := hall _ _ hposted
  have hconfirmed : reply.isReturned = true :=
    hreturned.2 ⟨_, rfl, ⟨[], by decide +kernel⟩, by decide⟩
  have hstraight : ¬ (Http.Exchange.received ⟨201, "\x7b\x7d"⟩).IsDiverted := by
    rintro ⟨-, hstatus⟩
    exact absurd hstatus (by decide)
  exact ⟨rfl, hposted, hconfirmed, haccepted.2 hstraight hconfirmed⟩

/-- **A redirection is confirmed as if the message had been sent.** -/
theorem redirected_is_confirmed :
    (Sample.network ⟨302, ""⟩).post
        (Sample.account.request Sample.receiver Sample.text Sample.address) =
      (.ok (.received ⟨302, ""⟩), (Sample.sent ⟨302, ""⟩).2) ∧
    (Sample.sent ⟨302, ""⟩).1 = .returned (.obj [("provider", .str "twilio"),
      ("providerMessageId", .null), ("status", .null), ("from", .null),
      ("messagingServiceSid", .null)]) ∧
    ¬ (Http.Exchange.received ⟨302, ""⟩).IsAccepted := by
  refine ⟨Sample.posted _, by decide +kernel, ?_⟩
  rintro ⟨-, hstatus⟩
  exact absurd hstatus (by decide)

end Connector
end Cadence
