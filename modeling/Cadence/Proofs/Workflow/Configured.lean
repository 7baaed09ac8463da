/-
# What a node asks of its data

Every type of node has its own requirements: texts that must be there and not be blank, texts that
may be there, an amount that is a positive whole number, a unit by its name. `Configured` says them
type by type, without the order in which they are looked at, and `configure_eq_ok` that they are
what decides whether a node gives a configuration, and which one. What a configuration is like then
follows case by case (`Configured.fits`, `Configured.lasts`).

A node that gives none is told off for something that it does lack: `Lacks` lists the requirements
with the messages about them (`lacks_of_configure`).

Key definitions: `Chain.Node.isAction`, `Chain.Node.Fits`, `Chain.Node.Lasts`, `Filled`, `Optional`,
`Whole`, `Configured`, `Lacks`.
Key theorems: `configure_eq_ok`, `Configured.fits`, `Configured.lasts`, `lacks_of_configure`,
`Lacks.not_configured`.
-/
import Cadence.Proofs.Checks
import Cadence.Workflow.Linearize

namespace Cadence

namespace Chain
namespace Node

/-- Whether a node sends something. -/
def isAction (n : Node) : Bool :=
  match n.config with
  | .email .. | .sms .. | .agent .. => true
  | _ => false

theorem not_action_of_trigger {n : Node} (hc : n.config = .trigger) : n.isAction = false := by
  rw [isAction, hc]

theorem not_action_of_wait {n : Node} {amount : Int} {unit : WaitUnit}
    (hc : n.config = .wait amount unit) : n.isAction = false := by
  rw [isAction, hc]

/-- A node is a trigger, a wait or an action. -/
theorem cases_config (n : Node) :
    n.config = .trigger ∨ (∃ amount unit, n.config = .wait amount unit) ∨ n.isAction = true := by
  unfold isAction
  cases hc : n.config with
  | trigger => exact Or.inl rfl
  | wait amount unit => exact Or.inr (Or.inl ⟨amount, unit, rfl⟩)
  | email => exact Or.inr (Or.inr rfl)
  | sms => exact Or.inr (Or.inr rfl)
  | agent => exact Or.inr (Or.inr rfl)

/-- A node does what its type says. -/
def Fits (n : Node) : Prop :=
  match n.config with
  | .trigger => n.type ∈ Workflow.startingTypes
  | .email .. => n.type = "send-email"
  | .sms .. => n.type = "send-sms"
  | .wait .. => n.type = Workflow.waitType
  | .agent .. => n.type = "agent-handoff"

/-- The wait of a node, if it is one, takes some time. -/
def Lasts (n : Node) : Prop := ∀ amount unit, n.config = .wait amount unit → 0 < amount

/-- The nodes that send something are those whose type says so. -/
theorem Fits.sending_iff {n : Node} (h : n.Fits) :
    n.type ∈ Workflow.sendingTypes ↔ n.isAction = true := by
  unfold Fits at h
  unfold isAction
  cases hc : n.config <;> rw [hc] at h <;> simp only at h
  case trigger =>
    simp only [Workflow.startingTypes, List.mem_cons, List.not_mem_nil, or_false] at h
    rcases h with h | h <;> simp [h, Workflow.sendingTypes]
  all_goals simp [h, Workflow.sendingTypes, Workflow.waitType]

end Node
end Chain

namespace Workflow

/-- A member of some data is a text that is not blank. -/
def Filled (data : Json.Fields) (name s : String) : Prop :=
  Json.Fields.getD data name = .str s ∧ Text.isBlankText s = false

/-- A text is the member of some data with a name, if this is a text that is not blank. -/
def Optional (data : Json.Fields) (name : String) (text : Option String) : Prop :=
  ∀ s, text = some s ↔ Filled data name s

/-- A number is whole, be it written with a point or without one. -/
def Whole (j : Json) (i : Int) : Prop :=
  j = .int i ∨ ∃ x : Binary64, j = .float x ∧ x.toInt? = some i

/-- What the type of a node asks of its data, and the configuration that the data then gives. -/
inductive Configured (n : Node) : Chain.Config → Prop
  | trigger (htype : n.type ∈ startingTypes) : Configured n .trigger
  | email {subject body : String} {receiver : Option String} (htype : n.type = "send-email")
      (hsubject : Filled n.data "subject" subject) (hbody : Filled n.data "body" body)
      (hto : Optional n.data "to" receiver) : Configured n (.email subject body receiver)
  | sms {message : String} {receiver : Option String} (htype : n.type = "send-sms")
      (hmessage : Filled n.data "message" message) (hto : Optional n.data "to" receiver) :
      Configured n (.sms message receiver)
  | wait {amount : Int} {unit : WaitUnit} (htype : n.type = waitType)
      (hwhole : Whole (Json.Fields.getD n.data "amount") amount) (hpos : 0 < amount)
      (hunit : Json.Fields.getD n.data "unit" = .str unit.name) : Configured n (.wait amount unit)
  | agent {agentId : String} {notes : Option String} (htype : n.type = "agent-handoff")
      (hid : Filled n.data "agentId" agentId) (hnotes : Optional n.data "notes" notes) :
      Configured n (.agent agentId notes)

/-! ### The members -/

theorem asText?_eq_some {j : Json} {s : String} : j.asText? = some s ↔ j = .str s := by
  cases j <;> simp [Json.asText?]

theorem filled?_eq_some {data : Json.Fields} {name s : String} :
    filled? data name = some s ↔ Filled data name s := by
  simp [filled?, Filled, Option.filter_eq_some_iff, asText?_eq_some]

theorem optional_iff {data : Json.Fields} {name : String} {text : Option String} :
    Optional data name text ↔ text = filled? data name := by
  simp only [Optional, ← filled?_eq_some]
  exact Option.ext_iff.symm

theorem requireText_eq_ok {id action name s : String} {data : Json.Fields} :
    requireText id action name data = .ok s ↔ Filled data name s := by
  rw [← filled?_eq_some]
  unfold requireText
  cases filled? data name <;> simp

theorem positive?_eq_some {j : Json} {i : Int} : positive? j = some i ↔ Whole j i ∧ 0 < i := by
  cases j <;> simp [positive?, Whole, Option.filter_eq_some_iff]
  case int i' =>
    constructor
    · rintro ⟨hpos, rfl⟩
      exact ⟨rfl, hpos⟩
    · rintro ⟨rfl, hpos⟩
      exact ⟨hpos, rfl⟩

theorem lookup_unit {u : String} {unit : WaitUnit} :
    WaitUnit.names.lookup u = some unit ↔ u = unit.name := by
  constructor
  · intro h
    simp only [WaitUnit.names, List.lookup_cons, List.lookup_nil] at h
    split at h
    · cases h
      simpa using ‹(u == _) = true›
    · split at h
      · cases h
        simpa using ‹(u == WaitUnit.hours.name) = true›
      · split at h
        · cases h
          simpa using ‹(u == WaitUnit.days.name) = true›
        · cases h
  · rintro rfl
    cases unit <;> decide

/-! ### The configuration -/

/-- **A node gives a configuration exactly if its data has what its type asks for**, and the
configuration holds the node's own data. -/
theorem configure_eq_ok {n : Node} {config : Chain.Config} :
    configure n = .ok config ↔ Configured n config := by
  constructor
  · intro h
    unfold configure at h
    split at h
    · rename_i hs
      cases h
      exact .trigger (by simpa using hs)
    · split at h
      · rename_i ht
        obtain ⟨subject, hsubject, h⟩ := bind_eq_ok.1 h
        obtain ⟨body, hbody, h⟩ := bind_eq_ok.1 h
        cases h
        exact .email ht (requireText_eq_ok.1 hsubject) (requireText_eq_ok.1 hbody)
          (optional_iff.2 rfl)
      · rename_i ht
        obtain ⟨message, hmessage, h⟩ := bind_eq_ok.1 h
        cases h
        exact .sms ht (requireText_eq_ok.1 hmessage) (optional_iff.2 rfl)
      · rename_i ht
        split at h
        · cases h
        · rename_i amount hamount
          split at h
          · cases h
          · rename_i unit hunit
            cases h
            obtain ⟨hwhole, hpos⟩ := positive?_eq_some.1 hamount
            obtain ⟨u, hu, hlookup⟩ := Option.bind_eq_some_iff.1 hunit
            rw [lookup_unit.1 hlookup] at hu
            exact .wait ht hwhole hpos (asText?_eq_some.1 hu)
      · rename_i ht
        obtain ⟨agentId, hid, h⟩ := bind_eq_ok.1 h
        cases h
        exact .agent ht (requireText_eq_ok.1 hid) (optional_iff.2 rfl)
      · cases h
  · intro h
    cases h with
    | trigger htype =>
      unfold configure
      rw [if_pos (by simpa using htype)]
    | email htype hsubject hbody hto =>
      simp [configure, htype, startingTypes, requireText_eq_ok.2 hsubject,
        requireText_eq_ok.2 hbody, optional_iff.1 hto, bind, Except.bind]
    | sms htype hmessage hto =>
      simp [configure, htype, startingTypes, requireText_eq_ok.2 hmessage, optional_iff.1 hto,
        bind, Except.bind]
    | @wait amount unit htype hwhole hpos hunit =>
      have hamount := positive?_eq_some.2 ⟨hwhole, hpos⟩
      have hlookup := lookup_unit.2 (Eq.refl unit.name)
      simp [configure, htype, startingTypes, waitType, hamount, hunit, Json.asText?, hlookup]
    | agent htype hid hnotes =>
      simp [configure, htype, startingTypes, requireText_eq_ok.2 hid, optional_iff.1 hnotes, bind,
        Except.bind]

theorem Configured.fits {n : Node} {config : Chain.Config} (h : Configured n config) :
    (⟨n.id, n.type, config⟩ : Chain.Node).Fits := by
  cases h <;> assumption

/-- The texts that must be there and not be blank: the type of node that asks for one, how messages
call what the node does, and the name of the text. -/
def requiredTexts : List (String × String × String) :=
  [("send-email", "Email", "subject"), ("send-email", "Email", "body"), ("send-sms", "SMS", "message"),
    ("agent-handoff", "Agent", "agentId")]

/-- What a node lacks that its type asks for, and the message that says so; the type itself may be
one that is not known. -/
inductive Lacks (n : Node) : String → Prop
  | text {action field : String} : (n.type, action, field) ∈ requiredTexts →
      (∀ s, ¬ Filled n.data field s) → Lacks n (action ++ ": '" ++ field ++ "' is required.")
  | amount : n.type = waitType → (∀ i, Whole (Json.Fields.getD n.data "amount") i → i ≤ 0) →
      Lacks n "Wait: 'amount' must be a positive integer."
  | unit : n.type = waitType →
      (∀ unit : WaitUnit, Json.Fields.getD n.data "unit" ≠ .str unit.name) →
      Lacks n "Wait: 'unit' must be minutes, hours or days."
  | type : n.type ∉ startingTypes → n.type ∉ sendingTypes → n.type ≠ waitType →
      Lacks n ("Unknown node type: " ++ n.type)

theorem requireText_eq_error {id action name : String} {data : Json.Fields} {f : Flaw}
    (h : requireText id action name data = .error f) :
    f = .blankField id action name ∧ ∀ s, ¬ Filled data name s := by
  unfold requireText at h
  split at h
  · cases h
  · rename_i hnone
    cases h
    refine ⟨rfl, fun s hs => ?_⟩
    rw [filled?_eq_some.2 hs] at hnone
    cases hnone

/-- A text that is required and missing is what the node lacks. -/
theorem lacks_text {n : Node} {action field : String} {f : Flaw}
    (hlist : (n.type, action, field) ∈ requiredTexts)
    (h : requireText n.id action field n.data = .error f) :
    f.node? = some n.id ∧ Lacks n f.message := by
  obtain ⟨rfl, hmissing⟩ := requireText_eq_error h
  exact ⟨rfl, .text hlist hmissing⟩

/-- **What a node is told off for, it lacks.** -/
theorem lacks_of_configure {n : Node} {f : Flaw} (h : configure n = .error f) :
    f.node? = some n.id ∧ Lacks n f.message := by
  unfold configure at h
  split at h
  · cases h
  rename_i hstart
  split at h
  · rename_i ht
    rcases bind_eq_error.1 h with hsubject | ⟨subject, -, h⟩
    · exact lacks_text (by simp [ht, requiredTexts]) hsubject
    · rcases bind_eq_error.1 h with hbody | ⟨body, -, h⟩
      · exact lacks_text (by simp [ht, requiredTexts]) hbody
      · cases h
  · rename_i ht
    rcases bind_eq_error.1 h with hmessage | ⟨message, -, h⟩
    · exact lacks_text (by simp [ht, requiredTexts]) hmessage
    · cases h
  · rename_i ht
    split at h
    · rename_i hamount
      cases h
      refine ⟨rfl, .amount ht fun i hi => ?_⟩
      by_contra hpos
      rw [positive?_eq_some.2 ⟨hi, Int.not_le.1 hpos⟩] at hamount
      cases hamount
    · split at h
      · rename_i hunit
        cases h
        refine ⟨rfl, .unit ht fun unit heq => ?_⟩
        rw [heq, Json.asText?, Option.bind_some, lookup_unit.2 rfl] at hunit
        cases hunit
      · cases h
  · rename_i ht
    rcases bind_eq_error.1 h with hid | ⟨agentId, -, h⟩
    · exact lacks_text (by simp [ht, requiredTexts]) hid
    · cases h
  · rename_i hemail hsms hwait hagent
    cases h
    refine ⟨rfl, .type (by simpa using hstart) ?_ hwait⟩
    simp only [sendingTypes, List.mem_cons, List.not_mem_nil, or_false]
    rintro (ht | ht | ht)
    · exact hemail ht
    · exact hsms ht
    · exact hagent ht

section
variable {n : Node} {config : Chain.Config}

/-- A node with a configuration has the texts that it must have. -/
theorem Configured.filled (h : Configured n config) {action field : String}
    (hlist : (n.type, action, field) ∈ requiredTexts) : ∃ s, Filled n.data field s := by
  simp only [requiredTexts, List.mem_cons, Prod.mk.injEq, List.not_mem_nil, or_false] at hlist
  cases h with
  | trigger htype =>
    simp only [startingTypes, List.mem_cons, List.not_mem_nil, or_false] at htype
    rcases htype with htype | htype <;> simp [htype] at hlist
  | email htype hsubject hbody =>
    simp only [htype, true_and] at hlist
    rcases hlist with ⟨-, rfl⟩ | ⟨-, rfl⟩ | hlist | hlist
    · exact ⟨_, hsubject⟩
    · exact ⟨_, hbody⟩
    · exact absurd hlist.1 (by decide)
    · exact absurd hlist.1 (by decide)
  | sms htype hmessage =>
    obtain ⟨-, rfl⟩ : action = "SMS" ∧ field = "message" := by simpa [htype] using hlist
    exact ⟨_, hmessage⟩
  | wait htype => simp [htype, waitType] at hlist
  | agent htype hid =>
    obtain ⟨-, rfl⟩ : action = "Agent" ∧ field = "agentId" := by simpa [htype] using hlist
    exact ⟨_, hid⟩

/-- A wait with a configuration has an amount and a unit. -/
theorem Configured.timed (h : Configured n config) (ht : n.type = waitType) :
    (∃ i, Whole (Json.Fields.getD n.data "amount") i ∧ 0 < i) ∧
      ∃ unit : WaitUnit, Json.Fields.getD n.data "unit" = .str unit.name := by
  cases h with
  | wait _ hwhole hpos hunit => exact ⟨⟨_, hwhole, hpos⟩, _, hunit⟩
  | trigger htype => simp [ht, startingTypes, waitType] at htype
  | email htype | sms htype | agent htype => simp [ht, waitType] at htype

/-- A node with a configuration has a type that is known. -/
theorem Configured.known (h : Configured n config) :
    n.type ∈ startingTypes ∨ n.type ∈ sendingTypes ∨ n.type = waitType := by
  cases h with
  | trigger htype => exact Or.inl htype
  | wait htype => exact Or.inr (Or.inr htype)
  | email htype | sms htype | agent htype => exact Or.inr (Or.inl (by simp [htype, sendingTypes]))

/-- A node that lacks something has no configuration. -/
theorem Lacks.not_configured {message : String} (h : Lacks n message) :
    ¬ ∃ config, Configured n config := by
  rintro ⟨config, hc⟩
  cases h with
  | text hlist hmissing =>
    obtain ⟨s, hs⟩ := hc.filled hlist
    exact hmissing s hs
  | amount htype hnone =>
    obtain ⟨⟨i, hwhole, hpos⟩, -⟩ := hc.timed htype
    exact absurd hpos (Int.not_lt.2 (hnone i hwhole))
  | unit htype hnone =>
    obtain ⟨-, unit, hunit⟩ := hc.timed htype
    exact hnone unit hunit
  | type hstart hsend hwait => exact hc.known.elim hstart fun h => h.elim hsend hwait

end

end Workflow
end Cadence
