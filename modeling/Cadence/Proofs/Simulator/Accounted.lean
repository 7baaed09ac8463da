/-
# What the simulator keeps and what it fails

A call of the simulator fails because a rule strikes, is refused because its message is no message,
or is accepted and leaves one message in the outbox (`Came`, `came_deliver`). Along any sequence of
calls the tally of a kind of delivery is decided by the number of its own calls (`Rules.expected`),
and the outbox holds one message for each call that returned, in order.

The tally counts the calls that a rule has failed, and somebody who counts failures from outside
also counts the refused ones. Both counts are the same for as long as the rule strikes, because a
message is looked at only after that (`Accounts.raised`).

Key definitions: `Draft.IsProper`, `Rules.IsCertain`, `Rules.expected`, `serve`, `Accounts`.
Key theorems: `came_deliver`, `Accounts.step`, `accounts_serve`, `serve_accounted`.
-/
import Cadence.Proofs.Number.Rounding
import Cadence.Proofs.Run.Contained
import Cadence.Proofs.Workflow.Written

namespace Cadence
namespace Simulator

/-! ### Messages -/

/-- A value that can be a text of a message. -/
def IsWholeText : Json → Prop
  | .str s => Text.Half.isIn s = false
  | _ => False

/-- All of a draft that has to be a text is one. -/
structure Draft.IsProper (d : Draft) : Prop where
  receiver : IsWholeText d.receiver
  subject : d.subject = .null ∨ IsWholeText d.subject
  body : IsWholeText d.body

theorem text_of_isWholeText {j : Json} (h : IsWholeText j) : ∃ s, Decode.text j = .ok s := by
  cases j with
  | str s => exact ⟨s, Decode.text_ok h⟩
  | null | bool | int | float | arr | obj => exact h.elim

theorem isWholeText_of_text {j : Json} {s : String} (h : Decode.text j = .ok s) :
    IsWholeText j := by
  unfold Decode.text at h
  split at h
  · split at h
    · cases h
    · rename_i hwhole
      exact Bool.eq_false_iff.2 hwhole
  · cases h

/-- **A draft becomes a message exactly if it is proper**, whatever its number and its channel. -/
theorem Draft.isProper_iff {d : Draft} (id channel : String) :
    d.IsProper ↔ ∃ m, d.message id channel = .ok m := by
  unfold Draft.message
  constructor
  · intro h
    obtain ⟨receiver, hreceiver⟩ := text_of_isWholeText h.receiver
    obtain ⟨body, hbody⟩ := text_of_isWholeText h.body
    have hsubject : ∃ subject, Decode.nullable Decode.text d.subject = .ok subject := by
      rcases h.subject with hnull | htext
      · rw [hnull]
        exact ⟨none, rfl⟩
      · obtain ⟨s, hs⟩ := text_of_isWholeText htext
        unfold Decode.nullable
        split
        · exact ⟨none, rfl⟩
        · rw [hs]
          exact ⟨some s, rfl⟩
    obtain ⟨subject, hsubject⟩ := hsubject
    rw [hreceiver, hsubject, hbody]
    exact ⟨_, rfl⟩
  · rintro ⟨m, hm⟩
    obtain ⟨f, body, hf, hbody, -⟩ := Checked.seq_eq_ok.1 hm
    obtain ⟨g, subject, hg, hsubject, -⟩ := Checked.seq_eq_ok.1 hf
    obtain ⟨receiver, hreceiver, -⟩ := Checked.map_eq_ok.1 hg
    refine ⟨isWholeText_of_text (Decode.within_eq_ok.1 hreceiver), ?_,
      isWholeText_of_text (Decode.within_eq_ok.1 hbody)⟩
    have hread := Decode.within_eq_ok.1 hsubject
    unfold Decode.nullable at hread
    split at hread
    · exact Or.inl ‹_›
    · cases htext : Decode.text d.subject with
      | ok s => exact Or.inr (isWholeText_of_text htext)
      | bad i is =>
        rw [htext] at hread
        cases hread

/-! ### Rules -/

namespace Rule

/-- A rule that fails every delivery for as long as it strikes. -/
def IsAlways (r : Rule) : Prop := r.probability.compareInt 1 = some .eq

instance (r : Rule) : Decidable r.IsAlways := inferInstanceAs (Decidable (_ = _))

/-- A rule without chance in it: it fails all deliveries or none. -/
def IsCertain (r : Rule) : Prop := r.probability.compareInt 0 = some .eq ∨ r.IsAlways

instance (r : Rule) : Decidable r.IsCertain := inferInstanceAs (Decidable (_ ∨ _))

/-- The limit of a rule, if it has one, is above a number of failures. -/
def IsOpen (r : Rule) (failed : Nat) : Prop := ∀ n ∈ r.times, (failed : Int) < n

theorem IsOpen.mono {r : Rule} {m n : Nat} (h : r.IsOpen n) (hle : m ≤ n) : r.IsOpen m :=
  fun t ht => lt_of_le_of_lt (Int.ofNat_le.2 hle) (h t ht)

end Rule

/-- What is zero is below one. -/
theorem ltInt_one_of_zero {x : Binary64} (h : x.compareInt 0 = some .eq) : x.ltInt 1 = true := by
  cases x with
  | nan => cases h
  | infinite negative => cases negative <;> cases h
  | finite negative m e =>
    have hpos := (Binary64.ratio_spec m e).1
    have hcompare : ∀ i, (Binary64.finite negative m e).compareInt i =
        some (compare (if negative then -((Binary64.ratio m e).1 : Int) else (Binary64.ratio m e).1)
          (i * (Binary64.ratio m e).2)) := fun _ => rfl
    rw [hcompare, zero_mul] at h
    have hzero := compare_eq_iff_eq.1 (Option.some.inj h)
    unfold Binary64.ltInt
    rw [hcompare, hzero, one_mul, compare_lt_iff_lt.2 (Int.natCast_pos.2 hpos)]
    rfl

/-- **A rule strikes if it always does and its limit is not reached.** -/
theorem Rule.applies_iff {r : Rule} (h : r.IsCertain) (failed : Nat) :
    r.applies failed = true ↔ r.IsAlways ∧ r.IsOpen failed := by
  have hopen : (!(r.times.any fun n => n ≤ (failed : Int))) = true ↔ r.IsOpen failed := by
    unfold IsOpen
    cases r.times with
    | none => simp
    | some n => simp
  have halways : (!r.probability.ltInt 1) = true ↔ r.IsAlways := by
    rcases h with hzero | hone
    · refine iff_of_false ?_ ?_
      · rw [ltInt_one_of_zero hzero]
        exact Bool.false_ne_true
      · intro hone
        have hlow := ltInt_one_of_zero hzero
        unfold Binary64.ltInt at hlow
        rw [hone] at hlow
        exact absurd hlow (by decide)
    · refine iff_of_true ?_ hone
      unfold Binary64.ltInt
      rw [hone]
      rfl
  unfold applies
  rw [Bool.and_eq_true, hopen, halways, and_comm]

namespace Rules

/-- All rules are without chance. -/
def IsCertain (r : Rules) : Prop := ∀ entry ∈ r.rules, entry.2.IsCertain

instance (r : Rules) : Decidable r.IsCertain := inferInstanceAs (Decidable (∀ _ ∈ _, _))

/-- A rule fails a delivery of a kind after a number of failures. -/
def Strikes (r : Rules) (a : Action) (failed : Nat) : Prop :=
  ∃ rule, r.get? a = some rule ∧ rule.IsAlways ∧ rule.IsOpen failed

/-- How many of a number of deliveries of a kind are to be failed. -/
def expected (r : Rules) (a : Action) (calls : Nat) : Nat :=
  match r.get? a with
  | .none => 0
  | some rule =>
    if rule.IsAlways then
      match rule.times with
      | .none => calls
      | some n => min n.toNat calls
    else 0

variable {r : Rules} {a : Action}

theorem IsCertain.rule (h : r.IsCertain) {rule : Rule} (hr : r.get? a = some rule) :
    rule.IsCertain := by
  obtain ⟨before, after, hrules, -⟩ := List.lookup_eq_some_iff.1 hr
  exact h (a, rule) (by rw [hrules]; simp)

theorem strikes_iff {rule : Rule} (hr : r.get? a = some rule) (n : Nat) :
    r.Strikes a n ↔ rule.IsAlways ∧ rule.IsOpen n := by
  constructor
  · rintro ⟨rule', hr', h⟩
    obtain rfl := Option.some.inj (hr.symm.trans hr')
    exact h
  · exact fun h => ⟨rule, hr, h⟩

theorem not_strikes (hr : r.get? a = .none) (n : Nat) : ¬ r.Strikes a n := by
  rintro ⟨rule, hr', -⟩
  exact absurd (hr.symm.trans hr') (by simp)

/-- What a rule does not strike after some failures it does not strike after more. -/
theorem Strikes.mono {m n : Nat} (h : r.Strikes a n) (hle : m ≤ n) : r.Strikes a m := by
  obtain ⟨rule, hr, halways, hopen⟩ := h
  exact ⟨rule, hr, halways, hopen.mono hle⟩

/-- Without a rule for its kind every delivery is let through. -/
theorem check_of_none (hr : r.get? a = .none) (t : Tally) : r.check a t = (.none, t) := by
  unfold check
  rw [hr]

/-- A delivery is failed and counted if a rule strikes, and let through if none does. -/
theorem check_cases (h : r.IsCertain) (a : Action) (t : Tally) :
    (∃ rule, r.get? a = some rule ∧ r.Strikes a (t.get a) ∧
      r.check a t = (some rule.failure, t.bump a)) ∨
    ¬ r.Strikes a (t.get a) ∧ r.check a t = (.none, t) := by
  cases hrule : r.get? a with
  | none => exact Or.inr ⟨not_strikes hrule _, check_of_none hrule t⟩
  | some rule =>
    unfold check
    rw [hrule]
    have happlies := rule.applies_iff (h.rule hrule) (t.get a)
    rw [← strikes_iff hrule] at happlies
    by_cases hstrikes : rule.applies (t.get a) = true
    · exact Or.inl ⟨rule, rfl, happlies.1 hstrikes, if_pos hstrikes⟩
    · exact Or.inr ⟨fun hs => hstrikes (happlies.2 hs), if_neg hstrikes⟩

theorem expected_zero : r.expected a 0 = 0 := by
  unfold expected
  cases r.get? a with
  | none => rfl
  | some rule =>
    dsimp only
    split
    · cases rule.times with
      | none => rfl
      | some t => exact Nat.min_zero _
    · rfl

/-- **One more delivery is failed if the rule still strikes.** -/
theorem expected_succ (r : Rules) (a : Action) (n : Nat) :
    (r.Strikes a (r.expected a n) → r.expected a (n + 1) = r.expected a n + 1) ∧
    (¬ r.Strikes a (r.expected a n) → r.expected a (n + 1) = r.expected a n) := by
  cases hr : r.get? a with
  | none =>
    refine ⟨fun hs => absurd hs (not_strikes hr _), fun _ => ?_⟩
    simp only [expected, hr]
  | some rule =>
    rw [strikes_iff hr]
    unfold expected Rule.IsOpen
    simp only [hr]
    by_cases halways : rule.IsAlways
    · cases htimes : rule.times with
      | none => simp [halways]
      | some t =>
        simp only [halways, if_true, true_and, Option.mem_def, Option.some.injEq, forall_eq']
        omega
    · simp [halways]

end Rules

/-! ### One call -/

/-- What becomes of a call: a rule fails it, its message is refused, or it leaves a message. -/
inductive Came (rules : Rules) (d : Delivery) (s : State) : Reply × State → Prop
  | failed {rule : Rule} : rules.get? d.action = some rule →
      rules.Strikes d.action (s.tally.get d.action) →
      Came rules d s (.failed rule.failure, { s with tally := s.tally.bump d.action })
  | refused {issues : List Issue} : ¬ rules.Strikes d.action (s.tally.get d.action) →
      ¬ (Draft.ofDelivery d).IsProper →
      Came rules d s (.failed (.invalid issues), { s with numbered := s.numbered + 1 })
  | accepted {m : Message} {receipt : Json} : ¬ rules.Strikes d.action (s.tally.get d.action) →
      (Draft.ofDelivery d).IsProper → Became ⟨d, .returned receipt⟩ m →
      Came rules d s
        (.returned receipt, { s with outbox := s.outbox ++ [m], numbered := s.numbered + 1 })

variable {rules : Rules} {d : Delivery} {s : State}

/-- **Everything that becomes of a call is listed**: the rules are asked before anybody looks at the
message. -/
theorem came_deliver (h : rules.IsCertain) (d : Delivery) (s : State) :
    Came rules d s (deliver rules d s) := by
  unfold deliver
  rcases Rules.check_cases h d.action s.tally with ⟨rule, hrule, hstrikes, hcheck⟩ | ⟨hfree, hcheck⟩
  · rw [hcheck]
    exact .failed hrule hstrikes
  · rw [hcheck]
    dsimp only
    have hproper := Draft.isProper_iff (d := Draft.ofDelivery d)
      (messageId (channelName d.action) (s.numbered + 1)) (channelName d.action)
    split
    · rename_i m hm
      exact .accepted hfree (hproper.2 ⟨m, hm⟩) ⟨_, hm⟩
    · rename_i issue issues hbad
      refine .refused hfree fun hp => ?_
      obtain ⟨m, hm⟩ := hproper.1 hp
      rw [hbad] at hm
      cases hm

/-! ### A sequence of calls -/

/-- Calls one after the other: what they came to, and the simulator after them. -/
def serve (rules : Rules) (ds : List Delivery) (s : State) : List Exchange × State :=
  ds.foldl (fun (xs, s) d => (xs ++ [⟨d, (deliver rules d s).1⟩], (deliver rules d s).2)) ([], s)

theorem serve_snoc (rules : Rules) (ds : List Delivery) (d : Delivery) (s : State) :
    serve rules (ds ++ [d]) s =
      ((serve rules ds s).1 ++ [⟨d, (deliver rules d (serve rules ds s).2).1⟩],
        (deliver rules d (serve rules ds s).2).2) := by
  unfold serve
  rw [List.foldl_append]
  rfl

/-- How many calls of a kind have failed, whatever the reason. -/
def failures (a : Action) (xs : List Exchange) : Nat :=
  xs.countP fun x => x.delivery.action = a && !x.reply.isReturned

/-- The books of a simulator after some calls: its tally is what is to be expected, and counts the
failures for as long as the rule strikes. -/
structure Accounts (rules : Rules) (xs : List Exchange) (s : State) : Prop where
  tally (a : Action) : s.tally.get a = rules.expected a (xs.countP (·.delivery.action = a))
  le_failures (a : Action) : s.tally.get a ≤ failures a xs
  eq_failures (a : Action) : rules.Strikes a (s.tally.get a) → s.tally.get a = failures a xs
  outbox : List.Forall₂ Became (xs.filter (·.reply.isReturned)) s.outbox

theorem accounts_fresh (rules : Rules) : Accounts rules [] .fresh where
  tally a := by
    cases a <;> exact Rules.expected_zero.symm
  le_failures a := by
    cases a <;> exact Nat.le_refl 0
  eq_failures a _ := by
    cases a <;> rfl
  outbox := .nil

/-- Counting from outside tells as well as the tally whether a rule strikes. -/
theorem Accounts.strikes_iff {xs : List Exchange} (h : Accounts rules xs s) (a : Action) :
    rules.Strikes a (failures a xs) ↔ rules.Strikes a (s.tally.get a) := by
  constructor
  · exact fun hs => hs.mono (h.le_failures a)
  · intro hs
    rw [← h.eq_failures a hs]
    exact hs

theorem Tally.get_bump (t : Tally) (a b : Action) :
    (t.bump a).get b = if a = b then t.get b + 1 else t.get b := by
  cases a <;> cases b <;> rfl

/-- What a call does to the tally. -/
theorem Came.tally {reply : Reply} {s' : State} (h : Came rules d s (reply, s')) :
    (rules.Strikes d.action (s.tally.get d.action) ∧ reply.isReturned = false ∧
      s'.tally = s.tally.bump d.action) ∨
    ¬ rules.Strikes d.action (s.tally.get d.action) ∧ s'.tally = s.tally := by
  cases h with
  | failed hrule hstrikes => exact Or.inl ⟨hstrikes, rfl, rfl⟩
  | refused hfree | accepted hfree => exact Or.inr ⟨hfree, rfl⟩

theorem failures_snoc (a : Action) (xs : List Exchange) (x : Exchange) :
    failures a (xs ++ [x]) =
      failures a xs + if x.delivery.action = a ∧ x.reply.isReturned = false then 1 else 0 := by
  unfold failures
  rw [List.countP_append, List.countP_singleton]
  simp

/-- **A call keeps the books.** Only those of its own kind change. -/
theorem Accounts.step {xs : List Exchange} (h : Accounts rules xs s) {reply : Reply} {s' : State}
    (hcame : Came rules d s (reply, s')) : Accounts rules (xs ++ [⟨d, reply⟩]) s' where
  tally a := by
    rw [List.countP_append, List.countP_singleton]
    by_cases ha : d.action = a
    · subst ha
      have hexpected := rules.expected_succ d.action (xs.countP (·.delivery.action = d.action))
      rw [← h.tally] at hexpected
      simp only [decide_true, if_true]
      rcases hcame.tally with ⟨hstrikes, -, htally⟩ | ⟨hfree, htally⟩
      · rw [hexpected.1 hstrikes, htally, Tally.get_bump, if_pos rfl]
      · rw [hexpected.2 hfree, htally]
    · simp only [ha, decide_false, Bool.false_eq_true, if_false, Nat.add_zero]
      rw [← h.tally]
      rcases hcame.tally with ⟨-, -, htally⟩ | ⟨-, htally⟩
      · rw [htally, Tally.get_bump, if_neg ha]
      · rw [htally]
  le_failures a := by
    have hle := h.le_failures a
    rw [failures_snoc]
    rcases hcame.tally with ⟨-, hfailed, htally⟩ | ⟨-, htally⟩
    · rw [htally, Tally.get_bump]
      by_cases ha : d.action = a
      · rw [if_pos ha, if_pos ⟨ha, hfailed⟩]
        omega
      · rw [if_neg ha]
        omega
    · rw [htally]
      omega
  eq_failures a hs := by
    rw [failures_snoc]
    rcases hcame.tally with ⟨hstrikes, hfailed, htally⟩ | ⟨hfree, htally⟩
    · rw [htally, Tally.get_bump] at hs ⊢
      by_cases ha : d.action = a
      · subst ha
        rw [if_pos rfl, if_pos ⟨rfl, hfailed⟩, h.eq_failures _ hstrikes]
      · rw [if_neg ha] at hs ⊢
        rw [if_neg fun hx => ha hx.1, h.eq_failures a hs]
        rfl
    · -- the rule that still strikes is one for another kind
      rw [htally] at hs ⊢
      have ha : d.action ≠ a := by
        rintro rfl
        exact hfree hs
      rw [if_neg fun hx => ha hx.1, h.eq_failures a hs]
      rfl
  outbox := by
    rw [List.filter_append]
    cases hcame with
    | failed | refused =>
      show List.Forall₂ Became (xs.filter _ ++ []) s.outbox
      rw [List.append_nil]
      exact h.outbox
    | accepted hfree hproper hbecame =>
      exact List.rel_append h.outbox (.cons hbecame .nil)

/-- **Every sequence of calls keeps the books**, and makes the calls in its order. -/
theorem accounts_serve (hrules : rules.IsCertain) (ds : List Delivery) :
    Accounts rules (serve rules ds .fresh).1 (serve rules ds .fresh).2 ∧
      (serve rules ds .fresh).1.map (·.delivery) = ds := by
  induction ds using List.reverseRecOn with
  | nil => exact ⟨accounts_fresh rules, rfl⟩
  | append_singleton ds d ih =>
    rw [serve_snoc]
    refine ⟨ih.1.step (came_deliver hrules d _), ?_⟩
    rw [List.map_append, ih.2]
    rfl

/-- **The simulator neither loses nor invents messages.** After any calls, the next one fails if a
rule for its kind always strikes and its limit is above the failures of this kind so far, or if its
message is none; then the outbox stays as it is. Else it returns and adds its message, on its
channel. So the outbox holds the messages of the calls that returned, in order, and what is counted
as failed by a rule depends on the number of calls of its kind alone. -/
theorem serve_accounted (hrules : rules.IsCertain) (ds : List Delivery) :
    ∃ xs s, serve rules ds .fresh = (xs, s) ∧ xs.map (·.delivery) = ds ∧
      (∀ d reply s', deliver rules d s = (reply, s') →
        ((∃ failure, reply = .failed failure) ∧ s'.outbox = s.outbox ∨
          ∃ value m, reply = .returned value ∧ s'.outbox = s.outbox ++ [m] ∧
            m.channel = channelName d.action ∧ Became ⟨d, reply⟩ m) ∧
        ((∃ failure, reply = .failed failure) ↔
          (∃ rule, rules.get? d.action = some rule ∧ rule.IsAlways ∧
            ∀ n ∈ rule.times, (failures d.action xs : Int) < n) ∨
          ¬ (Draft.ofDelivery d).IsProper)) ∧
      List.Forall₂ Became (xs.filter (·.reply.isReturned)) s.outbox ∧
      ∀ a, s.tally.get a = rules.expected a (ds.countP (·.action = a)) := by
  obtain ⟨hbooks, hcalls⟩ := accounts_serve hrules ds
  refine ⟨(serve rules ds .fresh).1, (serve rules ds .fresh).2, rfl, hcalls, ?_, hbooks.outbox, ?_⟩
  · intro d reply s' hdeliver
    have hcame : Came rules d (serve rules ds .fresh).2 (reply, s') :=
      hdeliver ▸ came_deliver hrules d _
    have hcount := hbooks.strikes_iff d.action
    cases hcame with
    | failed hrule hstrikes =>
      exact ⟨Or.inl ⟨⟨_, rfl⟩, rfl⟩, iff_of_true ⟨_, rfl⟩ (Or.inl (hcount.2 hstrikes))⟩
    | refused hfree himproper =>
      exact ⟨Or.inl ⟨⟨_, rfl⟩, rfl⟩, iff_of_true ⟨_, rfl⟩ (Or.inr himproper)⟩
    | accepted hfree hproper hbecame =>
      have hchannel : _ = channelName d.action := (Draft.message_ok hbecame.choose_spec).1
      refine ⟨Or.inr ⟨_, _, rfl, rfl, hchannel, hbecame⟩, iff_of_false ?_ ?_⟩
      · rintro ⟨failure, hfailed⟩
        cases hfailed
      · rintro (hstrikes | himproper)
        · exact hfree (hcount.1 hstrikes)
        · exact himproper hproper
  · intro a
    have hcount : (serve rules ds .fresh).1.countP (·.delivery.action = a) =
        ds.countP (·.action = a) := by
      conv_rhs => rw [← hcalls, List.countP_map]
      rfl
    rw [hbooks.tally, hcount]

/-! ### A limited failure -/

namespace Sample

/-- The first email is failed. -/
def limited : Rules := ⟨[(.email, ⟨.rateLimit, none, .ofInt 1, some 1⟩)], none⟩

/-- An email. -/
def mail : Delivery := .email (.str "ada@example.org") (.str "Hello") (.str "Hi")

/-- A text message. -/
def note : Delivery := .sms (.str "+32470000001") (.str "Hi")

/-- A lead whose phone number is a number. -/
def numbered : Delivery := .handoff (.str "closer") .null [("phone", .int 5)]

end Sample

/-- Of two emails around a text message the first is failed, and the others are in the outbox. -/
theorem serve_accounted_rate_limit : Sample.limited.IsCertain ∧
    ∃ xs s, serve Sample.limited [Sample.mail, Sample.note, Sample.mail] .fresh = (xs, s) ∧
      s.tally.get .email = 1 ∧ s.tally.get .sms = 0 ∧
      (xs.map (·.reply.isReturned) = [false, true, true]) ∧
      List.Forall₂ Became (xs.filter (·.reply.isReturned)) s.outbox := by
  have hcertain : Sample.limited.IsCertain := by decide +kernel
  obtain ⟨xs, s, hserve, -, -, houtbox, htally⟩ :=
    serve_accounted hcertain [Sample.mail, Sample.note, Sample.mail]
  refine ⟨hcertain, xs, s, hserve, ?_, ?_, ?_, houtbox⟩
  · rw [htally]
    decide +kernel
  · rw [htally]
    decide +kernel
  · have hxs : (serve Sample.limited [Sample.mail, Sample.note, Sample.mail] .fresh).1 = xs :=
      congrArg Prod.fst hserve
    rw [← hxs]
    decide +kernel

/-- **A call can fail without any rule**: what is no text is no receiver. -/
theorem numbered_phone_is_refused : Rules.none.IsCertain ∧
    (∃ failure, (deliver .none Sample.numbered .fresh).1 = .failed failure) ∧
    ¬ ∃ rule, Rules.none.get? Sample.numbered.action = some rule := by
  refine ⟨by decide, ⟨.invalid [⟨[.key "to"], .notText⟩], by decide +kernel⟩, ?_⟩
  rintro ⟨rule, hrule⟩
  cases hrule

end Simulator
end Cadence
