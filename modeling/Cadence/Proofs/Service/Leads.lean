/-
# Stored leads are normalized

A lead is normalized when it is enrolled, and when there are news about it they are put in and the
whole is normalized again. So whatever is done with a service, what a row keeps of its lead is the
document of a normalized one (`Row.KeepsNormal`); a run reads this lead back and normalizes it once
more, which changes nothing.

Normalizing works field by field, and news about a field do not touch any other. News about a
normalized lead therefore come down to `Lead.patched`: each field of which there are news gets what
they are normalized to, and all others are kept (`mergedLead_eq_patched`). The same news once more
change nothing (`Lead.patched_patched`).

Key definitions: `Lead.patched`, `Row.Keeps`, `Row.KeepsNormal`.
Key theorems: `Lead.normalized_update`, `Lead.patched_patched`, `Command.allNormal`,
`advance_patches`, `carry_leads`.
-/
import Cadence.Proofs.Service.Standing

namespace Cadence

namespace Lead

/-- A field of which there may be news: they take its place, normalized. -/
def patchedField {α : Type} (old given normal : Option α) : Option α :=
  if given.isSome then normal else old

/-- The lead with news about it: each field of which there are news gets what they are normalized
to, all others are kept. -/
def patched (lead news : Lead) : Lead :=
  { name := patchedField lead.name news.name news.normalized.name
    email := patchedField lead.email news.email news.normalized.email
    phone := patchedField lead.phone news.phone news.normalized.phone
    contactId := patchedField lead.contactId news.contactId news.normalized.contactId
    conversationId :=
      patchedField lead.conversationId news.conversationId news.normalized.conversationId
    channel := patchedField lead.channel news.channel news.normalized.channel
    lastMessage := patchedField lead.lastMessage news.lastMessage news.normalized.lastMessage }

/-- Normalizing a field after the news were put in leaves it alone if there are none. -/
theorem normal_or {α : Type} (normal : Option α → Option α) {old : Option α}
    (h : normal old = old) (given : Option α) :
    normal (given.or old) = patchedField old given (normal given) := by
  cases given with
  | none => exact h
  | some a => rfl

theorem patchedField_again {α : Type} (old given normal : Option α) :
    patchedField (patchedField old given normal) given normal = patchedField old given normal := by
  unfold patchedField
  split <;> rfl

/-- **News about a normalized lead** are put in field by field. -/
theorem normalized_update {lead : Lead} (h : lead.normalized = lead) (news : Lead) :
    (lead.update news).normalized = lead.patched news := by
  let clean (o : Option String) : Option String := o.bind Text.trimmed?
  let small (o : Option String) : Option String := (clean o).map Text.lower
  show Lead.mk _ _ _ _ _ _ _ = Lead.mk _ _ _ _ _ _ _
  rw [Lead.mk.injEq]
  exact ⟨normal_or clean (congrArg Lead.name h) news.name,
    normal_or small (congrArg Lead.email h) news.email,
    normal_or clean (congrArg Lead.phone h) news.phone,
    normal_or clean (congrArg Lead.contactId h) news.contactId,
    normal_or clean (congrArg Lead.conversationId h) news.conversationId,
    normal_or id rfl news.channel,
    normal_or clean (congrArg Lead.lastMessage h) news.lastMessage⟩

/-- **The same news once more** change nothing. -/
theorem patched_patched (lead news : Lead) :
    (lead.patched news).patched news = lead.patched news := by
  simp only [patched, patchedField_again]

end Lead

/-! ### Leads in rows -/

namespace Enrollment

/-- What a row keeps of a lead is read back as this lead. -/
def Row.Keeps (r : Row) (lead : Lead) : Prop := Lead.decode (.obj r.lead) = .ok lead

/-- The invariant of a row: it keeps the document of a normalized lead. -/
def Row.KeepsNormal (r : Row) : Prop :=
  ∃ lead : Lead, lead.IsWhole ∧ lead.normalized = lead ∧ r.lead = keptFields lead.toJson

theorem Row.KeepsNormal.of_normalized {r : Row} {lead : Lead} (h : lead.IsWhole)
    (hlead : r.lead = keptFields lead.normalized.toJson) : r.KeepsNormal :=
  ⟨lead.normalized, h.normalized, lead.normalized_idem, hlead⟩

/-- What such a row keeps, and what is read of the lead with the enrollment. -/
theorem Row.KeepsNormal.keeps {r : Row} (h : r.KeepsNormal) : ∃ lead, r.Keeps lead ∧
    lead.IsWhole ∧ lead.normalized = lead ∧ ∀ e, r.read = .ok e → e.lead = lead := by
  obtain ⟨lead, hwhole, hnormal, hlead⟩ := h
  have hkeeps : r.Keeps lead := by
    unfold Row.Keeps
    rw [hlead]
    exact Lead.decode_keptFields hwhole
  refine ⟨lead, hkeeps, hwhole, hnormal, ?_⟩
  intro e hread
  have hback := (read_eq_ok.1 hread).lead
  rw [show Lead.decode (.obj r.lead) = .ok lead from hkeeps] at hback
  exact (Except.ok.inj hback).symm

end Enrollment

namespace Service

open Time
open Enrollment (Row Rows recorded keptFields)

variable {σ : Type} {c : Config} {k : Collaborators σ} {s : State σ}

/-- Every row keeps a normalized lead, and rows have distinct ids. -/
abbrev AllNormal (s : State σ) : Prop := AllRows (fun _ => True) Row.KeepsNormal s

/-- The news about an enrollment leave its row with a normalized lead. -/
theorem Found.keepsNormal {id : String} {news : Option Lead} {r : Row} {e : Enrollment}
    (hf : Found s id news r e) (hnews : ∀ lead ∈ news, lead.IsWhole) (h : r.KeepsNormal) :
    (refreshed news e r).KeepsNormal := by
  obtain ⟨e', hread, rfl⟩ := hf.read
  cases news with
  | none => exact h
  | some news =>
    obtain ⟨lead, -, hwhole, -, hlead⟩ := h.keeps
    refine .of_normalized (hwhole.update (hnews news rfl)) ?_
    rw [← hlead e' hread]
    rfl

/-- What a run makes of a row beside the news does not touch the lead. -/
theorem Touched.lead {P : Reply → Prop} {i : Invocation σ} {r r' : Row} {e : Enrollment}
    (h : Touched P c k i r e r') : r'.lead = (refreshed i.news e r).lead := by
  cases h <;> rfl

/-- **Every command leaves all stored leads normalized.** -/
theorem Command.allNormal {Q : Moment → Prop} (cmd : Command) (hcmd : cmd.Proper Q)
    (h : AllNormal s) : AllNormal (cmd.perform c k s) := by
  refine cmd.allRows k.reply_any ?_ ?_ (fun _ => trivial) h
  · intro s₁ workflowId source lead overrides w heq _
    rw [heq] at hcmd
    exact .of_normalized hcmd.1 rfl
  · intro i _ _ hnews r e r' hf hr ht
    have hwhole : ∀ lead ∈ i.news, lead.IsWhole := by
      intro lead hlead
      obtain ⟨id, ignore, heq⟩ := hnews lead hlead
      rw [heq] at hcmd
      exact hcmd lead rfl
    obtain ⟨lead, hlead⟩ := hf.keepsNormal hwhole hr
    exact ⟨lead, hlead.1, hlead.2.1, ht.lead.trans hlead.2.2⟩

/-- What every command leaves, commands leave. -/
theorem carry_allNormal {Q : Moment → Prop} {cmds : List Command}
    (hcmds : ∀ cmd ∈ cmds, cmd.Proper Q) (h : AllNormal s) : AllNormal (carry c k cmds s) :=
  carry_allRows (F := fun _ => True) (fun _ => trivial)
    (fun cmd hmem _ _ h => cmd.allNormal (hcmds cmd hmem) h) h

/-! ### News about a lead -/

/-- Advancing an enrollment that cannot be read changes nothing. -/
theorem advance_unread {id : String} (hno : ∀ e, s.rows.get id ≠ .ok (some e))
    (ignore : Option Bool) (news : Option Lead) : (advance c k id ignore news).after s = s := by
  let i : Invocation σ := ⟨id, ignore, news, s⟩
  rcases i.touched (c := c) k.reply_any with ⟨-, hafter⟩ | ⟨r, e, r', hf, -⟩
  · exact hafter
  · obtain ⟨e', hread, -⟩ := hf.read
    exact absurd (get_of_read hf.row hread) (hno e')

/-- **Advancing an enrollment with news about its lead** puts them in field by field. -/
theorem advance_patches (h : AllNormal s) {id : String} {e : Enrollment}
    (hget : s.rows.get id = .ok (some e)) (ignore : Option Bool) {news : Lead}
    (hnews : news.IsWhole) : ∃ r,
      ((advance c k id ignore (some news)).after s).rows.find? id = some r ∧
        r.Keeps (e.lead.patched news) := by
  let i : Invocation σ := ⟨id, ignore, some news, s⟩
  obtain ⟨r, hrow, hread⟩ := get_eq_ok hget
  rcases i.touched (c := c) k.reply_any with ⟨hno, -⟩ | ⟨r₀, e₀, f, hf, hid, hrows, ht⟩
  · exact absurd ⟨hrow, e, hread, rfl⟩ (hno r (informed (some news) e))
  · obtain ⟨rfl, rfl⟩ := Found.unique ⟨hrow, e, hread, rfl⟩ hf
    obtain ⟨lead, -, hwhole, hnormal, hlead⟩ := (h.rows r₀ hf.mem).keeps
    obtain rfl := hlead e hread
    have hrows : ((advance c k id ignore (some news)).after s).rows = s.rows.modify id f := hrows
    refine ⟨f r₀, ?_, ?_⟩
    · rw [hrows, Enrollment.find?_modify id hid, hrow, Option.map_some]
    unfold Row.Keeps
    rw [ht.lead]
    show Lead.decode (.obj (keptFields (e.lead.update news).normalized.toJson)) = _
    rw [Lead.decode_keptFields (hwhole.update hnews).normalized, Lead.normalized_update hnormal]

/-- **Stored leads are normalized**, whatever is done with a service and whatever news about leads
come in, so a run addresses the lead that is stored. News put the fields that they speak of,
normalized, in the place of what was known and leave all other fields alone, and the same news once
more change nothing. This is so for every enrollment that can be read; any other one cannot be
advanced, and trying to changes nothing. -/
theorem carry_leads (hrows : s.rows = []) {cmds : List Command}
    (hcmds : ∀ cmd ∈ cmds, cmd.Proper fun _ => True) :
    let after := carry c k cmds s
    (∀ r ∈ after.rows, ∃ lead, r.Keeps lead ∧ lead.normalized = lead) ∧
      ∀ (id : String) (ignore : Option Bool) (news : Lead), news.IsWhole →
        let once := (advance c k id ignore (some news)).after after
        (∀ e, after.rows.get id = .ok (some e) → e.lead.normalized = e.lead ∧
          (∀ o : RunOptions, o.lead = e.lead → ∀ window, (o.context window).lead = e.lead) ∧
          (∃ r, once.rows.find? id = some r ∧ r.Keeps (e.lead.patched news)) ∧
          ∀ ignore', ∃ r,
            ((advance c k id ignore' (some news)).after once).rows.find? id = some r ∧
              r.Keeps (e.lead.patched news)) ∧
          ((∀ e, after.rows.get id ≠ .ok (some e)) → once = after) := by
  intro after
  have hafter : AllNormal after := carry_allNormal hcmds (.of_empty trivial hrows)
  refine ⟨fun r hr => ?_, fun id ignore news hnews => ?_⟩
  · obtain ⟨lead, hkeeps, -, hnormal, -⟩ := (hafter.rows r hr).keeps
    exact ⟨lead, hkeeps, hnormal⟩
  intro once
  have honce : AllNormal once :=
    (Command.operate (.advance id ignore (some news))).allNormal (Q := fun _ => True)
      (fun lead hlead => by cases hlead; exact hnews) hafter
  refine ⟨fun e hget => ?_, fun hno => advance_unread hno ignore (some news)⟩
  obtain ⟨r, hrow, hread⟩ := get_eq_ok hget
  obtain ⟨lead, -, -, hnormal, hlead⟩ := (hafter.rows r (List.mem_of_find?_eq_some hrow)).keeps
  obtain rfl := hlead e hread
  obtain ⟨r', hrow', hkeeps'⟩ := advance_patches (c := c) (k := k) hafter hget ignore hnews
  refine ⟨hnormal, fun o ho window => ?_, ⟨r', hrow', hkeeps'⟩, fun ignore' => ?_⟩
  · show o.lead.normalized = e.lead
    rw [ho, hnormal]
  -- the second time the enrollment may be one that cannot be read
  by_cases hagain : ∃ e', once.rows.get id = .ok (some e')
  · obtain ⟨e', hget'⟩ := hagain
    obtain ⟨r'', hrow'', hread''⟩ := get_eq_ok hget'
    cases hrow'.symm.trans hrow''
    obtain ⟨lead, hkeeps, -, -, hlead'⟩ := (honce.rows r' (List.mem_of_find?_eq_some hrow')).keeps
    have hsame : e'.lead = e.lead.patched news := by
      rw [hlead' e' hread'']
      exact Checked.ok.inj (hkeeps.symm.trans hkeeps')
    have htwice := advance_patches (c := c) (k := k) honce hget' ignore' hnews
    rwa [hsame, Lead.patched_patched] at htwice
  · rw [advance_unread (fun e' heq => hagain ⟨e', heq⟩)]
    exact ⟨r', hrow', hkeeps'⟩

/-! ### A lead that moves -/

namespace Sample

/-- A lead is enrolled who was written down carelessly. -/
def careless : List Command :=
  [.operate (.enroll "flow" { Lead.unknown with
    name := some " Ada ", email := some " Ada@Example.ORG", phone := some "+32470" } "live" .none)]

/-- The lead as it is stored. -/
def tidy : Lead :=
  { Lead.unknown with
    name := some "Ada", email := some "ada@example.org", phone := some "+32470" }

/-- The lead's name is not to be kept, and the address is another one. -/
def moved : Lead := { Lead.unknown with name := some " ", email := some "Ada@Example.com " }

end Sample

/-- What is kept of the sample's lead before and after it moved. -/
theorem carry_leads_sample :
    let after := carry Sample.config Sample.collaborators Sample.careless Sample.service
    let once := (advance Sample.config Sample.collaborators "enrollment-1" none
      (some Sample.moved)).after after
    (∀ r ∈ after.rows, ∃ lead, r.Keeps lead ∧ lead.normalized = lead) ∧
      ∃ r, once.rows.find? "enrollment-1" = some r ∧ r.Keeps
        { Lead.unknown with email := some "ada@example.com", phone := some "+32470" } := by
  intro after once
  have hcmds : ∀ cmd ∈ Sample.careless, cmd.Proper fun _ => True := by
    intro cmd hcmd
    rw [List.mem_singleton.1 hcmd]
    exact ⟨⟨.some rfl, .some rfl, .some rfl, .none, .none, .none⟩, .none, .none⟩
  have hmoved : Sample.moved.IsWhole := ⟨.some rfl, .some rfl, .none, .none, .none, .none⟩
  obtain ⟨hall, hnews⟩ := carry_leads (c := Sample.config) (k := Sample.collaborators)
    (s := Sample.service) rfl hcmds
  refine ⟨hall, ?_⟩
  have hget : ∃ e, after.rows.get "enrollment-1" = .ok (some e) ∧ e.lead = Sample.tidy := by
    have hlead : (after.rows.get "enrollment-1").toOption.bind (·.map Enrollment.lead) =
        some Sample.tidy := by
      decide +kernel
    rcases hrow : after.rows.get "enrollment-1" with f | _ | e <;> rw [hrow] at hlead
    · cases hlead
    · cases hlead
    · exact ⟨e, rfl, Option.some.inj hlead⟩
  obtain ⟨e, hget, hlead⟩ := hget
  obtain ⟨-, -, ⟨r, hrow, hkeeps⟩, -⟩ := (hnews "enrollment-1" none Sample.moved hmoved).1 e hget
  rw [hlead, show Sample.tidy.patched Sample.moved = { Lead.unknown with
    email := some "ada@example.com", phone := some "+32470" } by decide +kernel] at hkeeps
  exact ⟨r, hrow, hkeeps⟩

end Service
end Cadence
