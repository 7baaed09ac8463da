/-
# Whom a run writes to

A message is addressed to the override, to what the node is configured with, or to what the lead
has (`orderOf_addressed`). The tokens of a message text are more than the list of those that stand
in place of an address has room for. So a run can write to a text that a message would have
replaced, but only to one that somebody gave it as an address: as an override, as the lead's own,
or in a node's configuration with a spelling that is not on the list (`recipient_stands`).

Key definitions: `Delivery.addressed?`, `Chain.Config.receiver?`, `Overrides.of`.
Key theorems: `orderOf_addressed`, `recipient_stands`, `token_recipients`.
-/
import Cadence.Proofs.Lead.Recipients
import Cadence.Proofs.Run.Asked

namespace Cadence

/-- The field whose value is an address for a delivery, and the address that it goes to. -/
def Delivery.addressed? : Delivery → Option (TokenField × String)
  | .email (.str receiver) .. => some (.email, receiver)
  | .sms (.str receiver) .. => some (.phone, receiver)
  | _ => none

/-- The field whose value is an address for a node, and what the node is configured with instead. -/
def Chain.Config.receiver? : Chain.Config → Option (TokenField × Option String)
  | .email _ _ receiver => some (.email, receiver)
  | .sms _ receiver => some (.phone, receiver)
  | _ => none

/-- The address that wins over a field. -/
def Overrides.of (o : Overrides) : TokenField → Option String
  | .name => Option.none
  | .email => o.email
  | .phone => o.sms

variable {h : Bool} {c : Context} {n : Chain.Node} {field : TokenField} {t : Token}
  {before after : List Char}

/-- **An order is addressed to the recipient of its node.** -/
theorem orderOf_addressed {o : Order} (ho : orderOf c h n = .ok o) {receiver : String}
    (hd : o.delivery.addressed? = some (field, receiver)) :
    ∃ configured, n.config.receiver? = some (field, configured) ∧
      recipient (String.ofList field.word) (c.overrides.of field) configured
        (some (field.value c.lead)) = receiver := by
  cases ordered_of_orderOf ho with
  | email hconfig | sms hconfig =>
    obtain ⟨rfl, rfl⟩ := Prod.mk.inj (Option.some.inj hd)
    rw [hconfig]
    exact ⟨_, rfl, rfl⟩
  | agent => cases hd

/-- **A recipient that a message would have replaced** is the override, what the lead has, or what
is configured, and what is configured is then not on the list. -/
theorem recipient_stands {override configured own : Option String} {receiver : String}
    (ht : t.Stands before after receiver)
    (hr : recipient (String.ofList field.word) override configured own = receiver) :
    receiver = Text.trim (override.getD "") ∨ receiver = Text.trim (own.getD "") ∨
      ¬ t.IsListed field before after ∧
        ∃ given, configured = some given ∧ Text.trim given = receiver := by
  unfold recipient at hr
  dsimp only at hr
  split at hr
  · exact Or.inl hr.symm
  split at hr
  · exact Or.inr (Or.inl hr.symm)
  · rename_i hlist
    rw [hr, Bool.or_eq_true, not_or, List.contains_iff_mem, mem_tokenSpellings ht] at hlist
    refine Or.inr (Or.inr ⟨hlist.2, ?_⟩)
    cases configured with
    | none => exact absurd hr.symm ht.ne_empty
    | some given => exact ⟨given, rfl, hr⟩

/-- **A token can be given as an address if it is on the list.** A text that is as a whole a token
of a message renders to what the lead has. Configured as it is or with blanks around it, and without
an override, it makes an email or a text message go to what the lead has if the token is the field's
own, with no blanks inside its braces or one space next to both pairs; else to the text itself. A
run writes to such a text only if it is an override, what the lead has, or the configuration of a
node of its line and not on the list. -/
theorem token_recipients {configured text : String} (htrim : Text.trim configured = text)
    (ht : t.Stands before after text) :
    (∀ lead : Lead, lead.render text = .ok (t.field.value lead)) ∧
    (∀ (lead : Lead) (o : Overrides), Text.trim (o.email.getD "") = "" →
      emailRecipient (some configured) o lead =
        if t.IsListed .email before after then Text.trim (lead.email.getD "") else text) ∧
    (∀ (lead : Lead) (o : Overrides), Text.trim (o.sms.getD "") = "" →
      smsRecipient (some configured) o lead =
        if t.IsListed .phone before after then Text.trim (lead.phone.getD "") else text) ∧
    ∀ (h : Bool) (w : Runnable) (o : RunOptions) (P : Reply → Prop) (res : Except Fault Report)
      (xs : List Exchange), (w.run h o).ComesTo P res xs → ∀ x ∈ xs, ∀ field : TokenField,
        x.delivery.addressed? = some (field, text) →
          text = Text.trim ((o.overrides.of field).getD "") ∨
          text = Text.trim (field.value o.lead.normalized) ∨
          ¬ t.IsListed field before after ∧ ∃ line window n given,
            w.resolve o.sendWindow = .ok (line, window) ∧ n ∈ line.nodes ∧
              n.config.receiver? = some (field, some given) ∧ Text.trim given = text := by
  subst htrim
  refine ⟨ht.render, fun lead o ho => ?_, fun lead o ho => ?_, ?_⟩
  · show recipient (String.ofList TokenField.email.word) o.email (some configured) lead.email = _
    rw [ht.recipient, if_neg (not_not.2 ho)]
  · show recipient (String.ofList TokenField.phone.word) o.sms (some configured) lead.phone = _
    rw [ht.recipient, if_neg (not_not.2 ho)]
  · intro h w o P res xs hrun x hx field hd
    obtain ⟨line, window, hline, n, hn, -, -, last, order, horder, hdelivery⟩ := run_asked hrun x hx
    rw [← hdelivery] at hd
    obtain ⟨receiver, hreceiver, hr⟩ := orderOf_addressed horder hd
    refine (recipient_stands ht hr).imp_right fun h => h.imp_right ?_
    rintro ⟨hunlisted, given, rfl, hgiven⟩
    exact ⟨hunlisted, line, window, n, given, hline, hn, hreceiver, hgiven⟩

namespace Sample

/-- A lead that can be reached in both ways. -/
def reachable : Lead :=
  { Lead.unknown with email := some "ada@example.org", phone := some " +3247\t" }

end Sample

/-- A token of a message with a space next to one pair of its braces is an address. -/
theorem half_padded_token_is_an_address :
    Text.trim "\x7b\x7blead.email \x7d\x7d" = "\x7b\x7blead.email \x7d\x7d" ∧
      Token.Stands ⟨.email, "email".toList⟩ [] [' '] "\x7b\x7blead.email \x7d\x7d" ∧
      Sample.reachable.render "\x7b\x7blead.email \x7d\x7d" = .ok "ada@example.org" ∧
      emailRecipient (some "\x7b\x7blead.email \x7d\x7d") .none Sample.reachable =
        "\x7b\x7blead.email \x7d\x7d" ∧
      Text.trim (Sample.reachable.email.getD "") = "ada@example.org" := by
  have hpadded : Token.Padded ⟨.email, "email".toList⟩ [] [' ']
      "\x7b\x7blead.email \x7d\x7d".toList :=
    ⟨"lead".toList, '.', by decide, isBlank_of_pad (Or.inl rfl), by decide, by decide, by decide,
      isBlank_of_pad (Or.inr rfl)⟩
  exact ⟨by decide, ⟨hpadded, by decide⟩, by decide +kernel, by decide +kernel, by decide⟩

/-- In capitals, with an underscore and one space next to both pairs of braces, a token stands for
the lead's number where a text message goes, and for nothing where an email goes. -/
theorem token_recipients_capitals :
    Token.Stands ⟨.phone, "PHONE".toList⟩ [' '] [' '] "\x7b\x7b LEAD_PHONE \x7d\x7d" ∧
      Sample.reachable.render "\x7b\x7b LEAD_PHONE \x7d\x7d" = .ok " +3247\t" ∧
      smsRecipient (some "\t\x7b\x7b LEAD_PHONE \x7d\x7d\n") .none Sample.reachable = "+3247" ∧
      emailRecipient (some "\t\x7b\x7b LEAD_PHONE \x7d\x7d\n") .none Sample.reachable =
        "\x7b\x7b LEAD_PHONE \x7d\x7d" := by
  have htrim : Text.trim "\t\x7b\x7b LEAD_PHONE \x7d\x7d\n" =
      "\x7b\x7b LEAD_PHONE \x7d\x7d" := by
    decide
  have hpadded : Token.Padded ⟨.phone, "PHONE".toList⟩ [' '] [' ']
      "\x7b\x7b LEAD_PHONE \x7d\x7d".toList :=
    ⟨"LEAD".toList, '_', by decide, isBlank_of_pad (Or.inr rfl), by decide, by decide, by decide,
      isBlank_of_pad (Or.inr rfl)⟩
  have hstands : Token.Stands ⟨.phone, "PHONE".toList⟩ [' '] [' ']
      "\x7b\x7b LEAD_PHONE \x7d\x7d" := ⟨hpadded, by decide⟩
  obtain ⟨hrender, hemail, hsms, -⟩ := token_recipients htrim hstands
  exact ⟨hstands, hrender _, hsms _ .none (by decide), hemail _ .none (by decide)⟩

end Cadence
