/-
# A stored lead is the lead

A row keeps a lead as a document without its null members. Reading the document gives the lead back
(`decode_keptFields`), and so for overrides, as long as their texts are whole: no reader takes a
text with half a pair in it, so every lead that was read is whole (`isWhole_of_decode`).

A lead is normalized when it is enrolled and again for every run. Only the first time changes it
(`normalized_idem`).

Key definitions: `Whole`, `Lead.IsWhole`, `Overrides.IsWhole`.
Key theorems: `Lead.normalized_idem`, `Lead.decode_keptFields`, `Overrides.decode_keptFields`,
`Lead.isWhole_of_decode`.
-/
import Cadence.Enrollment.Rows
import Cadence.Proofs.Text.Lower

namespace Cadence

open Decode Enrollment

/-! ### Normalizing -/

namespace Text

theorem trimmed?_eq_some {s t : String} : trimmed? s = some t ↔ trim s = t ∧ t ≠ "" := by
  unfold trimmed?
  dsimp only
  split
  · rename_i h
    constructor
    · intro heq
      cases heq
    · rintro ⟨rfl, hne⟩
      exact absurd h hne
  · rename_i h
    constructor
    · intro heq
      obtain rfl := Option.some.inj heq
      exact ⟨rfl, h⟩
    · rintro ⟨rfl, -⟩
      rfl

/-- Trimming an optional text again changes nothing. -/
theorem bind_trimmed?_idem (o : Option String) :
    (o.bind trimmed?).bind trimmed? = o.bind trimmed? := by
  cases h : o.bind trimmed? with
  | none => rfl
  | some t =>
    obtain ⟨s, -, ht⟩ := Option.bind_eq_some_iff.1 h
    obtain ⟨rfl, hne⟩ := trimmed?_eq_some.1 ht
    rw [Option.bind_some]
    exact trimmed?_eq_some.2 ⟨trim_idem s, hne⟩

/-- Trimming an optional text and writing it in small letters again changes nothing. -/
theorem bind_trimmed?_lower_idem (o : Option String) :
    (((o.bind trimmed?).map lower).bind trimmed?).map lower = (o.bind trimmed?).map lower := by
  cases h : o.bind trimmed? with
  | none => rfl
  | some t =>
    obtain ⟨s, -, ht⟩ := Option.bind_eq_some_iff.1 h
    obtain ⟨rfl, hne⟩ := trimmed?_eq_some.1 ht
    have hagain : trimmed? (lower (trim s)) = some (lower (trim s)) :=
      trimmed?_eq_some.2 ⟨trim_lower_trim s, lower_ne_empty hne⟩
    rw [Option.map_some, Option.bind_some, hagain, Option.map_some, lower_idem]

end Text

/-- **Normalizing a lead twice is normalizing it once.** -/
theorem Lead.normalized_idem (lead : Lead) : lead.normalized.normalized = lead.normalized := by
  simp only [normalized, Text.bind_trimmed?_idem, Text.bind_trimmed?_lower_idem]

/-! ### Whole texts -/

/-- An optional text without halves of pairs. -/
def Whole (o : Option String) : Prop := ∀ s ∈ o, Text.Half.isIn s = false

theorem Whole.none : Whole .none := fun _ hs => absurd hs (by simp)

theorem Whole.some {s : String} (h : Text.Half.isIn s = false) : Whole (.some s) :=
  fun _ hs => Option.some.inj hs ▸ h

theorem Whole.trimmed {o : Option String} (h : Whole o) : Whole (o.bind Text.trimmed?) := by
  intro t ht
  obtain ⟨s, hs, ht⟩ := Option.bind_eq_some_iff.1 ht
  obtain ⟨rfl, -⟩ := Text.trimmed?_eq_some.1 ht
  exact Text.isIn_trim (h s hs)

theorem Whole.lower {o : Option String} (h : Whole o) : Whole (o.map Text.lower) := by
  intro t ht
  obtain ⟨s, hs, rfl⟩ := Option.map_eq_some_iff.1 ht
  exact Text.isIn_lower (h s hs)

/-- All texts of a lead are whole. -/
structure Lead.IsWhole (lead : Lead) : Prop where
  name : Whole lead.name
  email : Whole lead.email
  phone : Whole lead.phone
  contactId : Whole lead.contactId
  conversationId : Whole lead.conversationId
  lastMessage : Whole lead.lastMessage

theorem Lead.IsWhole.normalized {lead : Lead} (h : lead.IsWhole) : lead.normalized.IsWhole :=
  ⟨h.name.trimmed, h.email.trimmed.lower, h.phone.trimmed, h.contactId.trimmed,
    h.conversationId.trimmed, h.lastMessage.trimmed⟩

theorem Whole.or {o o' : Option String} (h : Whole o) (h' : Whole o') : Whole (o.or o') := by
  cases o with
  | none => exact h'
  | some s => exact h

/-- News about a lead whose texts are whole leave its texts whole. -/
theorem Lead.IsWhole.update {lead news : Lead} (h : lead.IsWhole) (hn : news.IsWhole) :
    (lead.update news).IsWhole :=
  ⟨hn.name.or h.name, hn.email.or h.email, hn.phone.or h.phone, hn.contactId.or h.contactId,
    hn.conversationId.or h.conversationId, hn.lastMessage.or h.lastMessage⟩

/-- All texts of overrides are whole. -/
structure Overrides.IsWhole (o : Overrides) : Prop where
  email : Whole o.email
  sms : Whole o.sms

/-! ### Members that are kept -/

namespace Json

/-- A member is kept unless it is null. -/
theorem get?_dropNulls (key : String) : ∀ {f : Fields}, (f.map (·.1)).Nodup →
    (dropNulls f).get? key = (f.get? key).filter (· ≠ .null)
  | [], _ => rfl
  | (k, v) :: f, hnd => by
    rw [List.map_cons, List.nodup_cons] at hnd
    have ih := get?_dropNulls key hnd.2
    unfold dropNulls Fields.get? at ih ⊢
    by_cases hk : k = key
    · subst hk
      have hout : f.find? (fun m => decide (m.1 = k)) = none := by
        rw [List.find?_eq_none]
        intro m hm hmk
        exact hnd.1 (List.mem_map.2 ⟨m, hm, by simpa using hmk⟩)
      rw [hout] at ih
      rw [List.find?_cons_of_pos (by simp), Option.map_some]
      by_cases hv : v = .null
      · rw [List.filter_cons_of_neg (by simpa using hv), ih, hv]
        rfl
      · rw [List.filter_cons_of_pos (by simpa using hv), List.find?_cons_of_pos (by simp)]
        simp [Option.filter, hv]
    · rw [List.find?_cons_of_neg (by simpa using hk), ← ih]
      by_cases hv : v = .null
      · rw [List.filter_cons_of_neg (by simpa using hv)]
      · rw [List.filter_cons_of_pos (by simpa using hv),
          List.find?_cons_of_neg (by simpa using hk)]

theorem filter_ofText? (o : Option String) :
    (some (ofText? o)).filter (· ≠ .null) = o.map .str := by
  cases o <;> rfl

end Json

namespace Decode

variable {f : Json.Fields} {o : Option String}

/-- An optional member is read from what was kept of it, under its own name. -/
theorem fieldOr_kept {α : Type} {name : String} {others : List String}
    {check : Json → Checked (Option α)} {a : Option α} (hnd : (f.map (·.1)).Nodup)
    (hname : f.get? name = some (.ofText? o))
    (hothers : ∀ other ∈ others, f.get? other = none ∨ other = name)
    (hsome : ∀ s, o = some s → check (.str s) = .ok a) (hnone : o = none → a = none) :
    fieldOr (name :: others) none check (Json.dropNulls f) = .ok a := by
  have hkept : (Json.dropNulls f).get? name = o.map .str := by
    rw [Json.get?_dropNulls _ hnd, hname, Json.filter_ofText?]
  unfold fieldOr entry?
  cases ho : o with
  | none =>
    rw [ho, Option.map_none] at hkept
    have hall : (name :: others).findSome? (fun n => ((Json.dropNulls f).get? n).map (n, ·)) =
        none := by
      rw [List.findSome?_eq_none_iff]
      intro n hn
      have hn' : (Json.dropNulls f).get? n = none := by
        rcases List.mem_cons.1 hn with rfl | hn
        · exact hkept
        · rcases hothers n hn with hno | rfl
          · rw [Json.get?_dropNulls _ hnd, hno]
            rfl
          · exact hkept
      rw [hn']
      rfl
    rw [hall, hnone ho]
  | some s =>
    rw [ho, Option.map_some] at hkept
    rw [List.findSome?_cons, hkept]
    simp only [Option.map_some, hsome s ho]
    rfl

end Decode

/-- An optional text is read from what was kept of it. -/
theorem Lead.optionalText_kept {name : String} {f : Json.Fields} {o : Option String}
    (hnd : (f.map (·.1)).Nodup) (hname : f.get? name = some (.ofText? o))
    (hother : f.get? (underscored name) = none ∨ underscored name = name) (ho : Whole o) :
    Lead.optionalText name (Json.dropNulls f) = .ok o := by
  refine fieldOr_kept hnd hname ?_ ?_ id
  · intro other hmem
    rw [List.mem_singleton.1 hmem]
    exact hother
  · rintro s rfl
    unfold nullable text
    simp only [ho s rfl, Bool.false_eq_true, if_false]
    rfl

/-- **A lead is read back from what is kept of it.** -/
theorem Lead.decode_keptFields {lead : Lead} (h : lead.IsWhole) :
    Lead.decode (.obj (keptFields lead.toJson)) = .ok lead := by
  have hnd : (lead.fields.map (·.1)).Nodup := by
    show (["name", "email", "phone", "contactId", "conversationId", "channel",
      "lastMessage"] : List String).Nodup
    decide
  have hchannel : fieldOr ["channel"] none (nullable channelChoice) (Json.dropNulls lead.fields) =
      .ok lead.channel := by
    refine fieldOr_kept (o := lead.channel.map Channel.name) hnd rfl ?_ ?_ ?_
    · exact fun _ hmem => absurd hmem List.not_mem_nil
    · intro s hs
      obtain ⟨c, hc, rfl⟩ := Option.map_eq_some_iff.1 hs
      rw [hc]
      cases c <;> rfl
    · exact fun hnone => Option.map_eq_none_iff.1 hnone
  have hname : optionalText "name" (Json.dropNulls lead.fields) = .ok lead.name :=
    optionalText_kept hnd rfl (Or.inr (by decide)) h.name
  have hemail : optionalText "email" (Json.dropNulls lead.fields) = .ok lead.email :=
    optionalText_kept hnd rfl (Or.inr (by decide)) h.email
  have hphone : optionalText "phone" (Json.dropNulls lead.fields) = .ok lead.phone :=
    optionalText_kept hnd rfl (Or.inr (by decide)) h.phone
  have hcontact : optionalText "contactId" (Json.dropNulls lead.fields) = .ok lead.contactId :=
    optionalText_kept hnd rfl (Or.inl rfl) h.contactId
  have hconversation : optionalText "conversationId" (Json.dropNulls lead.fields) =
      .ok lead.conversationId :=
    optionalText_kept hnd rfl (Or.inl rfl) h.conversationId
  have hlast : optionalText "lastMessage" (Json.dropNulls lead.fields) = .ok lead.lastMessage :=
    optionalText_kept hnd rfl (Or.inl rfl) h.lastMessage
  unfold Lead.decode Decode.record keptFields Lead.toJson
  simp only [hname, hemail, hphone, hcontact, hconversation, hchannel, hlast]
  rfl

/-- **Overrides are read back from what is kept of them.** -/
theorem Overrides.decode_keptFields {o : Overrides} (h : o.IsWhole) :
    Overrides.decode (.obj (keptFields o.toJson)) = .ok o := by
  obtain ⟨fields, hfields⟩ : ∃ fields : Json.Fields, fields =
      [("emailToOverride", .ofText? o.email), ("smsToOverride", .ofText? o.sms)] := ⟨_, rfl⟩
  have hnd : (fields.map (·.1)).Nodup := by
    rw [hfields]
    show (["emailToOverride", "smsToOverride"] : List String).Nodup
    decide
  have hemail : Lead.optionalText "emailToOverride" (Json.dropNulls fields) = .ok o.email :=
    Lead.optionalText_kept hnd (by rw [hfields]; rfl) (Or.inl (by rw [hfields]; rfl)) h.email
  have hsms : Lead.optionalText "smsToOverride" (Json.dropNulls fields) = .ok o.sms :=
    Lead.optionalText_kept hnd (by rw [hfields]; rfl) (Or.inl (by rw [hfields]; rfl)) h.sms
  unfold Overrides.decode Decode.record keptFields Overrides.toJson
  rw [← hfields]
  simp only [hemail, hsms]
  rfl

/-! ### What was read is whole -/

/-- A function that was read, applied to a value that was read. -/
theorem Checked.seq_eq_ok {α β : Type} {f : Checked (α → β)} {x : Checked α} {b : β} :
    f <*> x = .ok b ↔ ∃ g a, f = .ok g ∧ x = .ok a ∧ g a = b := by
  constructor
  · intro h
    cases f with
    | bad i is => cases x <;> cases h
    | ok g =>
      cases x with
      | bad i is => cases h
      | ok a => exact ⟨g, a, rfl, rfl, Checked.ok.inj h⟩
  · rintro ⟨g, a, rfl, rfl, rfl⟩
    rfl

theorem Checked.map_eq_ok {α β : Type} {f : α → β} {x : Checked α} {b : β} :
    f <$> x = .ok b ↔ ∃ a, x = .ok a ∧ f a = b := by
  constructor
  · intro h
    cases x with
    | bad i is => cases h
    | ok a => exact ⟨a, rfl, Checked.ok.inj h⟩
  · rintro ⟨a, rfl, rfl⟩
    rfl

/-- A reader of optional texts takes none with half a pair in it. -/
theorem Lead.whole_of_optionalText {name : String} {f : Json.Fields} {o : Option String}
    (h : Lead.optionalText name f = .ok o) : Whole o := by
  unfold Lead.optionalText fieldOr at h
  split at h
  · rename_i j _
    unfold nullable at h
    split at h
    · cases h
      exact Whole.none
    · unfold text at h
      split at h
      · split at h
        · cases h
        · rename_i s hs
          cases h
          intro t ht
          obtain rfl := Option.some.inj ht
          simpa using hs
      · cases h
  · cases h
    exact Whole.none

/-- **Every lead that was read is whole.** -/
theorem Lead.isWhole_of_decode {j : Json} {lead : Lead} (h : Lead.decode j = .ok lead) :
    lead.IsWhole := by
  unfold Lead.decode record at h
  split at h
  · obtain ⟨f6, lastMessage, h6, hlast, rfl⟩ := Checked.seq_eq_ok.1 h
    obtain ⟨f5, channel, h5, -, rfl⟩ := Checked.seq_eq_ok.1 h6
    obtain ⟨f4, conversationId, h4, hconversation, rfl⟩ := Checked.seq_eq_ok.1 h5
    obtain ⟨f3, contactId, h3, hcontact, rfl⟩ := Checked.seq_eq_ok.1 h4
    obtain ⟨f2, phone, h2, hphone, rfl⟩ := Checked.seq_eq_ok.1 h3
    obtain ⟨f1, email, h1, hemail, rfl⟩ := Checked.seq_eq_ok.1 h2
    obtain ⟨name, hname, rfl⟩ := Checked.map_eq_ok.1 h1
    exact ⟨whole_of_optionalText hname, whole_of_optionalText hemail,
      whole_of_optionalText hphone, whole_of_optionalText hcontact,
      whole_of_optionalText hconversation, whole_of_optionalText hlast⟩
  · cases h

theorem Overrides.isWhole_of_decode {j : Json} {o : Overrides} (h : Overrides.decode j = .ok o) :
    o.IsWhole := by
  unfold Overrides.decode record at h
  split at h
  · obtain ⟨f, sms, hf, hsms, rfl⟩ := Checked.seq_eq_ok.1 h
    obtain ⟨email, hemail, rfl⟩ := Checked.map_eq_ok.1 hf
    exact ⟨Lead.whole_of_optionalText hemail, Lead.whole_of_optionalText hsms⟩
  · cases h

end Cadence
