/-
# The table of steps as it is read

A report shows its steps as a table in plain text: one line for each step, and in the line its cells
between bars. Whoever reads the table takes it apart at the line breaks and the bars
(`tableLines`, `cellsOf`). What stands in a cell is put in as it is, so the lines and cells that are
read are those that were written exactly if no text has a bar or a line break of its own
(`Tabular`, `tabular_iff`). Lines and cells are one and the same count: a text put together with a
separator comes apart into one part more for each separator that is in a part
(`Text.length_splitOn_intercalate`).

In a run of a chain only a delivery that is made can bring such a text in: by its recipient or its
agent, by what comes back, or by the words it fails with. Triggers, waits, skipped nodes, and those
that find nothing to send or no time to wait have details of fixed words, numbers and times
(`NodeRan.fits_iff`). So the table of a run keeps its shape exactly if all that its exchanges show
fits into cells (`run_tabular_iff`); a generated message of two lines already breaks a row
(`two_lines_break_the_table`).

Key definitions: `Text.FitsCell`, `tableLines`, `cellsOf`, `Tabular`, `Exchange.texts`.
Key theorems: `Text.length_splitOn_intercalate`, `tabular_iff`, `NodeRan.fits_iff`, `walk_fits`,
`run_tabular_iff`.
-/
import Cadence.Proofs.Lead.Rendered
import Cadence.Proofs.Run.Waits
import Cadence.Run.Markdown
import Cadence.Text.Split
import Mathlib.Algebra.GroupWithZero.Nat

namespace Cadence

open Time

/-! ### Taking texts apart -/

namespace Text

theorem length_splitOn (c : Char) (cs : List Char) : (cs.splitOn c).length = cs.count c + 1 := by
  induction cs with
  | nil => rfl
  | cons x cs ih =>
    rw [List.splitOn_cons_eq_if_modifyHead, List.count_cons]
    by_cases hx : x == c
    · rw [if_pos hx, if_pos hx, List.length_cons, ih]
    · rw [if_neg hx, if_neg hx, List.length_modifyHead, ih, Nat.add_zero]

theorem count_intercalate (c : Char) : ∀ {parts : List (List Char)}, parts ≠ [] →
    ([c].intercalate parts).count c + 1 = parts.length + (parts.map (List.count c)).sum
  | [], h => absurd rfl h
  | [p], _ => by
    simp
    omega
  | p :: q :: rest, _ => by
    have ih := count_intercalate c (List.cons_ne_nil q rest)
    rw [List.intercalate_cons_cons, List.count_append, List.count_append, List.count_singleton_self,
      List.map_cons, List.sum_cons, List.length_cons]
    omega

variable {c : Char} {sep : String} {parts : List String}

/-- **A text comes apart into as many parts as it was put together from**, and one more for each
separator that is in a part. -/
theorem length_splitOn_intercalate (hsep : sep.toList = [c]) (hne : parts ≠ []) :
    (splitOn c (sep.intercalate parts)).length =
      parts.length + (parts.map fun p => p.toList.count c).sum := by
  have hcount := count_intercalate c (show parts.map String.toList ≠ [] by simpa using hne)
  rw [List.length_map, List.map_map] at hcount
  rw [splitOn, List.length_map, length_splitOn, String.toList_intercalate, hsep, hcount]
  rfl

theorem sum_count_eq_zero : (parts.map fun p => p.toList.count c).sum = 0 ↔
    ∀ p ∈ parts, c ∉ p.toList := by
  simp [List.sum_eq_zero_iff_forall_eq_nat, List.count_eq_zero]

/-- Where no part has the separator in it, the parts are the same. -/
theorem splitOn_intercalate (hsep : sep.toList = [c]) (hne : parts ≠ [])
    (h : ∀ p ∈ parts, c ∉ p.toList) : splitOn c (sep.intercalate parts) = parts := by
  rw [splitOn, String.toList_intercalate, hsep,
    List.splitOn_intercalate c (by simpa using h) (by simpa using hne), List.map_map]
  simp [Function.comp_def]

/-! ### Texts that fit into a cell -/

/-- Characters without a bar and without a line break. -/
def Clear (cs : List Char) : Prop := '|' ∉ cs ∧ '\n' ∉ cs

/-- A text fits into a cell of a table: it has no bar and no line break. -/
def FitsCell (s : String) : Prop := Clear s.toList

instance (cs : List Char) : Decidable (Clear cs) := inferInstanceAs (Decidable (_ ∧ _))

instance (s : String) : Decidable (FitsCell s) := inferInstanceAs (Decidable (Clear _))

@[simp] theorem clear_nil : Clear [] := ⟨List.not_mem_nil, List.not_mem_nil⟩

@[simp]
theorem clear_append {as bs : List Char} : Clear (as ++ bs) ↔ Clear as ∧ Clear bs := by
  simp only [Clear, List.mem_append, not_or]
  tauto

@[simp]
theorem clear_cons {a : Char} {cs : List Char} :
    Clear (a :: cs) ↔ (a ≠ '|' ∧ a ≠ '\n') ∧ Clear cs := by
  simp only [Clear, List.mem_cons, not_or, ne_comm (a := a)]
  tauto

theorem Clear.subset {as bs : List Char} (hb : Clear bs) (h : as ⊆ bs) : Clear as :=
  ⟨fun ha => hb.1 (h ha), fun ha => hb.2 (h ha)⟩

theorem clear_of_digits {cs : List Char} (h : ∀ a ∈ cs, a.isDigit = true) : Clear cs :=
  ⟨fun ha => absurd (h _ ha) (by decide), fun ha => absurd (h _ ha) (by decide)⟩

theorem clear_replicate {a : Char} (ha : a ≠ '|' ∧ a ≠ '\n') (n : Nat) :
    Clear (List.replicate n a) :=
  ⟨fun h => ha.1 (List.eq_of_mem_replicate h).symm, fun h => ha.2 (List.eq_of_mem_replicate h).symm⟩

@[simp]
theorem fitsCell_ofList {cs : List Char} : FitsCell (String.ofList cs) ↔ Clear cs := by
  rw [FitsCell, String.toList_ofList]

@[simp]
theorem fitsCell_append {a b : String} : FitsCell (a ++ b) ↔ FitsCell a ∧ FitsCell b := by
  rw [FitsCell, String.toList_append, clear_append]
  rfl

/-- A list of texts fits into a cell if each of them does, and what stands between them. -/
theorem fitsCell_intercalate {sep : String} (hsep : FitsCell sep) : ∀ {parts : List String},
    FitsCell (sep.intercalate parts) ↔ ∀ p ∈ parts, FitsCell p
  | [] => by simp [FitsCell]
  | [p] => by simp
  | p :: q :: rest => by
    have ih : FitsCell (sep.intercalate (q :: rest)) ↔ ∀ p ∈ q :: rest, FitsCell p :=
      fitsCell_intercalate hsep
    rw [String.intercalate_cons_cons, fitsCell_append, fitsCell_append, ih,
      List.forall_mem_cons (l := q :: rest)]
    tauto

end Text

open Text

/-! ### Numbers and times -/

theorem clear_digits (n : Nat) : Clear (Nat.toDigits 10 n) :=
  clear_of_digits fun _ ha => Nat.isDigit_of_mem_toDigits (by decide) (by decide) ha

theorem fitsCell_nat (n : Nat) : FitsCell (toString n) := by
  show FitsCell (String.ofList (Nat.toDigits 10 n))
  rw [fitsCell_ofList]
  exact clear_digits n

theorem fitsCell_int : ∀ i : Int, FitsCell (toString i)
  | .ofNat n => fitsCell_nat n
  | .negSucc n => by
    show FitsCell ("-" ++ toString (n + 1))
    rw [fitsCell_append]
    exact ⟨by decide, fitsCell_nat _⟩

namespace Time

theorem clear_padded (width n : Nat) : Clear (padded width n) :=
  clear_of_digits (padded_digits width n)

theorem clear_clockText (micros : Nat) (withSeconds : Bool) :
    Clear (clockText micros withSeconds) := by
  unfold clockText
  dsimp only
  split <;> split <;> simp [clear_padded]

theorem Moment.fitsCell_iso (m : Moment) : FitsCell m.iso := by
  have hlocal : Clear (m.localText 'T') := by
    unfold Moment.localText
    simp [clear_padded, clear_clockText]
  have hoffset : Clear ((m.offset.map offsetText).getD []) := by
    cases m.offset with
    | none => exact clear_nil
    | some offset =>
      show Clear (offsetText offset)
      unfold offsetText
      split <;> simp [clear_clockText]
  unfold Moment.iso
  rw [fitsCell_ofList, clear_append]
  exact ⟨hlocal, hoffset⟩

end Time

namespace Decimal

theorem clear_padLeft {cs : List Char} (h : Clear cs) (width : Nat) : Clear (padLeft width cs) := by
  unfold padLeft
  rw [clear_append]
  exact ⟨clear_replicate (by decide) _, h⟩

theorem clear_figures (n : Nat) : Clear (digits n) := clear_digits n

theorem clear_exponentPart (layout : Layout) (x : Int) : Clear (exponentPart layout x) := by
  unfold exponentPart
  have hdigits := clear_padLeft (clear_figures x.natAbs) layout.exponentWidth
  split
  · simpa using hdigits
  · split <;> simpa using hdigits

theorem clear_place (layout : Layout) {ds : List Char} (h : Clear ds) (p : Int) :
    Clear (place layout ds p) := by
  have hzeros : ∀ n, Clear (List.replicate n '0') := clear_replicate (by decide)
  have htake : ∀ n, Clear (ds.take n) := fun n => h.subset (List.take_subset n ds)
  have hdrop : ∀ n, Clear (ds.drop n) := fun n => h.subset (List.drop_subset n ds)
  unfold place
  split
  · unfold positional
    split
    · simp [hzeros, h]
    · dsimp only
      split
      · split <;> simp [hzeros, htake]
      · simp [hzeros, htake, hdrop]
  · unfold scientific
    split
    · exact clear_nil
    · simp only [clear_cons] at h
      simp [h, clear_exponentPart]
    · simp only [clear_cons] at h
      simp [h, clear_exponentPart]

theorem clear_trimZeros {cs : List Char} (h : Clear cs) : Clear (trimZeros cs) := by
  refine h.subset fun a ha => ?_
  unfold trimZeros at ha
  exact List.mem_reverse.1 ((List.dropWhile_subset _) (List.mem_reverse.1 ha))

theorem clear_firstDigits (count k : Nat) (p : Int) : Clear (firstDigits count k p).1 := by
  unfold firstDigits
  split
  · exact clear_figures _
  · exact clear_figures _

theorem fitsCell_general : ∀ x : Binary64, FitsCell (general x)
  | .nan => by
    unfold general
    decide
  | .infinite s => by
    unfold general
    cases s <;> decide
  | .finite s m e => by
    have hsign : Clear (if s then ['-'] else []) := by cases s <;> decide
    unfold general
    dsimp only
    split
    · rw [fitsCell_ofList, clear_append]
      exact ⟨hsign, by decide⟩
    · rw [fitsCell_ofList, clear_append]
      exact ⟨hsign, clear_place _ (clear_trimZeros (clear_firstDigits _ _ _)) _⟩

end Decimal

/-! ### The shape of the table -/

/-- The lines below the heading of a table of steps, as they are read from its text. -/
def tableLines (steps : List Step) : List String :=
  (splitOn '\n' ("\n".intercalate (stepsTable steps))).drop tableHead.length

/-- The cells of a row as they are read: what stands between its bars. -/
def cellsOf (row : String) : List String := ((splitOn '|' row).drop 1).dropLast

/-- The table of steps keeps its shape: below the heading there is one line for each step, which is
the row of the step and has five cells. -/
structure Tabular (steps : List Step) : Prop where
  length : (tableLines steps).length = steps.length
  rows : ∀ (i : Nat) (s : Step), steps[i]? = some s →
    (tableLines steps)[i]? = some (s.row (i + 1)) ∧ (cellsOf (s.row (i + 1))).length = 5

namespace Step

/-- The detail of a step's row. -/
def detail (s : Step) : String := s.markAndDetail.2

/-- The texts of the five cells of a step's row. -/
def cellTexts (number : Nat) (s : Step) : List String :=
  [" " ++ toString number ++ " ", " `" ++ s.nodeId ++ "` ", " " ++ s.nodeType ++ " ",
    " " ++ s.markAndDetail.1 ++ " ", " " ++ s.detail ++ " "]

/-- Whether the node that a step names fits into the cells of its row. -/
def NamesFit (s : Step) : Prop := FitsCell s.nodeId ∧ FitsCell s.nodeType

theorem row_eq (number : Nat) (s : Step) :
    s.row number = "|".intercalate ("" :: (s.cellTexts number ++ [""])) := by
  refine String.toList_inj.1 ?_
  simp [row, cellTexts, detail]

theorem fitsCell_mark (s : Step) : FitsCell s.markAndDetail.1 := by
  unfold markAndDetail
  split
  · exact (by decide : FitsCell "FAIL")
  · split
    · exact (by decide : FitsCell "SKIP")
    · split
      · exact (by decide : FitsCell "PAUSE")
      · exact (by decide : FitsCell "OK")

/-- A row comes apart into five cells exactly if its detail has no bar. -/
theorem length_cellsOf {s : Step} (hn : s.NamesFit) (number : Nat) :
    (cellsOf (s.row number)).length = 5 ↔ '|' ∉ s.detail.toList := by
  have hlength := @length_splitOn_intercalate '|' "|" _ rfl
    (List.cons_ne_nil "" (s.cellTexts number ++ [""]))
  have hparts : ("" :: (s.cellTexts number ++ [""])).length = 7 := rfl
  have hbar : (∀ p ∈ "" :: (s.cellTexts number ++ [""]), '|' ∉ p.toList) ↔
      '|' ∉ s.detail.toList := by
    simp [cellTexts, hn.1.1, hn.2.1, (clear_digits number).1, s.fitsCell_mark.1]
  rw [hparts] at hlength
  rw [← hbar, ← sum_count_eq_zero, cellsOf, List.length_dropLast, List.length_drop, row_eq, hlength]
  omega

/-- A row is one line exactly if its detail is. -/
theorem newline_row {s : Step} (hn : s.NamesFit) (number : Nat) :
    '\n' ∉ (s.row number).toList ↔ '\n' ∉ s.detail.toList := by
  simp [row, detail, hn.1.2, hn.2.2, (clear_digits number).2, s.fitsCell_mark.2]

end Step

theorem length_rowsFrom : ∀ (steps : List Step) (number : Nat),
    (rowsFrom number steps).length = steps.length
  | [], _ => rfl
  | _ :: rest, number => congrArg (· + 1) (length_rowsFrom rest (number + 1))

theorem getElem?_rowsFrom : ∀ (steps : List Step) (number i : Nat),
    (rowsFrom number steps)[i]? = steps[i]?.map (·.row (number + i))
  | [], _, _ => rfl
  | _ :: _, _, 0 => rfl
  | _ :: rest, number, i + 1 => by
    have ih := getElem?_rowsFrom rest (number + 1) i
    rw [show number + 1 + i = number + (i + 1) by omega] at ih
    exact ih

theorem mem_rowsFrom {steps : List Step} {number : Nat} {r : String} :
    r ∈ rowsFrom number steps ↔
      ∃ (i : Nat) (s : Step), steps[i]? = some s ∧ s.row (number + i) = r := by
  simp only [List.mem_iff_getElem?, getElem?_rowsFrom, Option.map_eq_some_iff]

theorem stepsTable_ne_nil (steps : List Step) : stepsTable steps ≠ [] := List.cons_ne_nil _ _

/-- Each line of the table is one exactly if each detail is. -/
theorem newline_stepsTable {steps : List Step} (hn : ∀ s ∈ steps, s.NamesFit) :
    (∀ p ∈ stepsTable steps, '\n' ∉ p.toList) ↔ ∀ s ∈ steps, '\n' ∉ s.detail.toList := by
  have hhead : ∀ p ∈ tableHead, '\n' ∉ p.toList := by decide
  rw [stepsTable, List.forall_mem_append, and_iff_right hhead]
  constructor
  · intro hall s hs
    obtain ⟨i, hi⟩ := List.mem_iff_getElem?.1 hs
    exact (Step.newline_row (hn s hs) _).1 (hall _ (mem_rowsFrom.2 ⟨i, s, hi, rfl⟩))
  · intro hall p hp
    obtain ⟨i, s, hi, rfl⟩ := mem_rowsFrom.1 hp
    have hs := List.mem_of_getElem? hi
    exact (Step.newline_row (hn s hs) _).2 (hall s hs)

/-- The lines of the table are as many as the steps exactly if each detail is one line. -/
theorem length_tableLines {steps : List Step} (hn : ∀ s ∈ steps, s.NamesFit) :
    (tableLines steps).length = steps.length ↔ ∀ s ∈ steps, '\n' ∉ s.detail.toList := by
  have hlength := @length_splitOn_intercalate '\n' "\n" _ rfl (stepsTable_ne_nil steps)
  have hparts : (stepsTable steps).length = tableHead.length + steps.length := by
    rw [stepsTable, List.length_append, length_rowsFrom]
  rw [← newline_stepsTable hn, ← sum_count_eq_zero, tableLines, List.length_drop, hlength, hparts]
  omega

/-- Then the lines are the rows. -/
theorem tableLines_eq {steps : List Step} (hn : ∀ s ∈ steps, s.NamesFit)
    (hlines : ∀ s ∈ steps, '\n' ∉ s.detail.toList) : tableLines steps = rowsFrom 1 steps := by
  rw [tableLines, splitOn_intercalate rfl (stepsTable_ne_nil steps)
    ((newline_stepsTable hn).2 hlines), stepsTable, List.drop_left]

/-- **A table keeps its shape** exactly if no detail has a bar or a line break. -/
theorem tabular_iff {steps : List Step} (hn : ∀ s ∈ steps, s.NamesFit) :
    Tabular steps ↔ ∀ s ∈ steps, FitsCell s.detail := by
  constructor
  · intro h s hs
    obtain ⟨i, hi⟩ := List.mem_iff_getElem?.1 hs
    exact ⟨(Step.length_cellsOf (hn s hs) _).1 (h.rows i s hi).2,
      (length_tableLines hn).1 h.length s hs⟩
  · intro h
    have hlines : ∀ s ∈ steps, '\n' ∉ s.detail.toList := fun s hs => (h s hs).2
    refine ⟨(length_tableLines hn).2 hlines, fun i s hi => ?_⟩
    have hs := List.mem_of_getElem? hi
    refine ⟨?_, (Step.length_cellsOf (hn s hs) _).2 (h s hs).1⟩
    rw [tableLines_eq hn hlines, getElem?_rowsFrom, hi, Nat.add_comm 1 i]
    rfl

/-! ### What a run shows -/

/-- The texts that the detail of a success is made of. -/
def shownTexts (output : Json.Fields) : List String :=
  if (Json.Fields.getD output "skipped").isTruthy then
    [((Json.Fields.get? output "reason").getD (.str "")).display]
  else if (Json.Fields.getD output "paused").isTruthy then
    ["amount", "unit", "resumeAt"].map fun key => (Json.Fields.getD output key).display
  else
    (output.filter fun m => m.1 != "status" && m.1 != "raw").flatMap fun m => [m.1, m.2.display]

/-- What a step records of a delivery besides the reply. -/
def Delivery.recorded : Delivery → Json.Fields
  | .email receiver _ _ => [("to", receiver)]
  | .sms receiver _ => [("to", receiver)]
  | .handoff agentId _ _ => [("agentId", agentId)]

/-- The members of a reply that a step records, or why it does not. -/
def Reply.outcome (r : Reply) : Except Failure Json.Fields := r.members >>= Members.fields

namespace Exchange

/-- The texts that the step of an exchange shows. -/
def texts (timeout : Binary64) (x : Exchange) : List String :=
  match x.reply.outcome with
  | .ok fields => shownTexts (Json.Fields.merge x.delivery.recorded fields)
  | .error failure => [(failure.described timeout).1]

/-- All that the step of an exchange shows fits into a cell. -/
def Fits (timeout : Binary64) (x : Exchange) : Prop := ∀ t ∈ x.texts timeout, FitsCell t

instance (timeout : Binary64) (x : Exchange) : Decidable (x.Fits timeout) :=
  inferInstanceAs (Decidable (∀ t ∈ x.texts timeout, FitsCell t))

end Exchange

/-- The detail of a success fits if the texts do that it is made of. -/
theorem Step.fitsCell_detail {s : Step} (hs : s.status = .success) :
    FitsCell s.detail ↔ ∀ t ∈ shownTexts s.output, FitsCell t := by
  have hcomma : FitsCell ", " := by decide
  have hequals : FitsCell "=" := by decide
  have hblank : FitsCell " " := by decide
  have huntil : FitsCell " until " := by decide
  unfold detail markAndDetail shownTexts
  rw [hs]
  dsimp only
  by_cases hskip : (s.output.getD "skipped").isTruthy = true
  · rw [if_pos (show s.isSkipped = true from hskip), if_pos hskip]
    simp
  rw [if_neg (show ¬ s.isSkipped = true from hskip), if_neg hskip]
  by_cases hpause : (s.output.getD "paused").isTruthy = true
  · rw [if_pos (show s.isPaused = true from hpause), if_pos hpause]
    simp [hblank, huntil, Step.get, and_assoc]
  rw [if_neg (show ¬ s.isPaused = true from hpause), if_neg hpause, fitsCell_intercalate hcomma]
  have hpiece : ∀ m : String × Json, FitsCell (m.1 ++ "=" ++ m.2.display) ↔
      ∀ t ∈ [m.1, m.2.display], FitsCell t := by
    intro m
    simp [hequals]
  rw [List.forall_mem_map, List.forall_mem_flatMap]
  exact forall₂_congr fun m _ => hpiece m

variable {P : Reply → Prop} {h : Bool} {c : Context} {n : Chain.Node}

theorem detail_failedStep (f : Failure) : (c.failedStep n f).detail = (f.described c.timeout).1 :=
  rfl

/-- A delivery that is not answered in time has a detail of fixed words and a number. -/
theorem fitsCell_timedOut (timeout : Binary64) :
    FitsCell (Failure.timedOut.described timeout).1 := by
  show FitsCell ("Delivery call timed out after " ++ Decimal.general timeout ++ "s")
  rw [fitsCell_append, fitsCell_append]
  exact ⟨⟨by decide, Decimal.fitsCell_general timeout⟩, by decide⟩

theorem Ordered.recorded {o : Order} (ho : Ordered h c n o) : o.delivery.recorded = o.output := by
  cases ho <;> rfl

/-- The step of a delivery that got a reply: it records the members of the reply, or it failed. -/
theorem settle_step (o : Order) (r : Reply) : (settle c n o r).1 =
    match r.outcome with
    | .ok fields => c.step n .success (Json.Fields.merge o.output fields)
    | .error failure => c.failedStep n failure := by
  unfold settle Reply.outcome
  cases r.members with
  | error failure => rfl
  | ok members => rfl

/-- The step of an exchange fits if all that it shows does. -/
theorem fitsCell_settle {o : Order} (ho : Ordered h c n o) (r : Reply) :
    FitsCell (settle c n o r).1.detail ↔ Exchange.Fits c.timeout ⟨o.delivery, r⟩ := by
  rw [settle_step]
  unfold Exchange.Fits Exchange.texts
  dsimp only
  rw [ho.recorded]
  cases r.outcome with
  | error failure => simp [detail_failedStep]
  | ok fields =>
    have hsucc : (c.step n .success (Json.Fields.merge o.output fields)).status = .success := rfl
    exact Step.fitsCell_detail hsucc

/-- The word of a token for no field fits. -/
theorem fitsCell_of_render {text : String} {f : Failure} (hf : c.render text = .error f)
    (timeout : Binary64) : FitsCell (f.described timeout).1 := by
  unfold Context.render at hf
  cases hrender : c.lead.render text with
  | ok out =>
    rw [hrender] at hf
    cases hf
  | error word =>
    rw [hrender] at hf
    cases hf
    have hword := (c.lead.foreign_of_render hrender).1
    simp only [List.mem_cons, List.not_mem_nil, or_false] at hword
    rcases hword with rfl | rfl
    · dsimp only [Failure.described]
      decide +kernel
    · dsimp only [Failure.described]
      decide +kernel

/-- A node that finds nothing to send has a detail of fixed words. -/
theorem fitsCell_of_orderOf (ha : n.isAction = true) {f : Failure} (hf : orderOf c h n = .error f)
    (timeout : Binary64) : FitsCell (f.described timeout).1 := by
  unfold orderOf at hf
  split at hf
  · dsimp only at hf
    split at hf
    · cases hf
      dsimp only [Failure.described]
      decide +kernel
    · rcases bind_eq_error.1 hf with hsubject | ⟨subject, -, hf⟩
      · exact fitsCell_of_render hsubject timeout
      · rcases bind_eq_error.1 hf with hbody | ⟨body, -, hf⟩
        · exact fitsCell_of_render hbody timeout
        · cases hf
  · dsimp only at hf
    split at hf
    · cases hf
      dsimp only [Failure.described]
      decide +kernel
    · rcases bind_eq_error.1 hf with hmessage | ⟨message, -, hf⟩
      · exact fitsCell_of_render hmessage timeout
      · cases hf
  · split at hf
    · cases hf
      dsimp only [Failure.described]
      decide +kernel
    · cases hf
  · rename_i hemail hsms hagent
    cases hconfig : n.config with
    | trigger =>
      rw [Chain.Node.not_action_of_trigger hconfig] at ha
      cases ha
    | wait amount unit =>
      rw [Chain.Node.not_action_of_wait hconfig] at ha
      cases ha
    | email subject body receiver => exact absurd hconfig (hemail subject body receiver)
    | sms message receiver => exact absurd hconfig (hsms message receiver)
    | agent agentId notes => exact absurd hconfig (hagent agentId notes)

theorem WaitUnit.fitsCell_name (unit : WaitUnit) : FitsCell unit.name := by
  cases unit <;> decide

/-- The step of a wait has a detail of fixed words, a number and a time. -/
theorem fitsCell_wait {amount : Int} {unit : WaitUnit} {s : Step}
    (hs : stepOfWait c n amount unit = .ok s) : FitsCell s.detail := by
  have hunit := unit.fitsCell_name
  have hpaused : ∀ due : Moment, FitsCell (c.step n .success
      ([("amount", Json.int amount), ("unit", .str unit.name)] ++ [("paused", .bool true),
        ("resumeAt", .str due.iso), ("reason", .str "Wait step reached")])).detail := by
    intro due
    rw [Step.fitsCell_detail rfl]
    show ∀ t ∈ [toString amount, unit.name, due.iso], FitsCell t
    simp only [List.forall_mem_cons, fitsCell_int, hunit, due.fitsCell_iso, true_and]
    exact List.forall_mem_nil _
  unfold stepOfWait at hs
  dsimp only at hs
  split at hs
  · cases hs
    rw [Step.fitsCell_detail rfl]
    show ∀ t ∈ ["amount", toString amount, "unit", unit.name], FitsCell t
    simp only [List.forall_mem_cons, fitsCell_int, hunit, true_and]
    decide
  · split at hs
    · rename_i id due hreplay
      split at hs
      · cases hs
      · cases hs
        rw [Step.fitsCell_detail rfl]
        show ∀ t ∈ ["amount", toString amount, "unit", unit.name, "resumed", "True", "resumeAt",
          due.iso], FitsCell t
        simp only [List.forall_mem_cons, fitsCell_int, hunit, due.fitsCell_iso, true_and]
        decide
      · cases hs
        exact hpaused _
    · cases hs
    · obtain ⟨due, -, hs⟩ := bind_eq_ok.1 hs
      cases hs
      exact hpaused _

/-- **What a node shows fits into its row** exactly if what its exchange shows does. -/
theorem NodeRan.fits_iff {s : Step} {c' : Context} {xs : List Exchange}
    (hr : NodeRan P h c n (.ok (s, c')) xs) :
    FitsCell s.detail ↔ ∀ x ∈ xs, x.Fits c.timeout := by
  have hsilent : FitsCell s.detail → (FitsCell s.detail ↔ ∀ x ∈ [], Exchange.Fits c.timeout x) :=
    fun hfits => iff_of_true hfits (List.forall_mem_nil _)
  generalize hres : Except.ok (s, c') = res at hr
  cases hr with
  | trigger =>
    cases hres
    exact hsilent (by decide : FitsCell "")
  | blocked => cases hres
  | skipped =>
    cases hres
    exact hsilent (by decide : FitsCell "Outside configured send window")
  | waited =>
    obtain ⟨s', hs, heq⟩ := map_eq_ok.1 hres.symm
    cases heq
    exact hsilent (fitsCell_wait hs)
  | refused ha _ hnone =>
    cases hres
    exact hsilent (fitsCell_of_orderOf ha hnone c.timeout)
  | late =>
    cases hres
    exact hsilent (fitsCell_timedOut c.timeout)
  | answered _ _ ho =>
    rename_i o r _ _ _ _
    have hstep : s = (settle c n o r).1 := congrArg Prod.fst (Except.ok.inj hres)
    rw [hstep, fitsCell_settle (ordered_of_orderOf ho) r, List.forall_mem_singleton]

/-! ### Runs -/

/-- **The steps of a run fit into their rows** exactly if what its exchanges show does. By recursion
on the nodes: behind a step that passed, the run is one over the rest. -/
theorem walk_fits : ∀ {nodes : List Chain.Node} {c : Context} {r report : Report}
    {xs : List Exchange}, (runNodes h c r nodes).ComesTo P (.ok report) xs →
    ∃ steps : List Step, report.steps = r.steps ++ steps ∧
      (∀ s ∈ steps, ∃ n ∈ nodes, s.entry.Of n) ∧
      ((∀ s ∈ steps, FitsCell s.detail) ↔ ∀ x ∈ xs, x.Fits c.timeout)
  | [], c, r, report, xs, hr => by
    obtain ⟨hres, rfl⟩ := comesTo_runNodes_nil hr
    cases hres
    exact ⟨[], (List.append_nil _).symm, List.forall_mem_nil _,
      iff_of_true (List.forall_mem_nil _) (List.forall_mem_nil _)⟩
  | n :: rest, c, r, report, xs, hr => by
    rcases comesTo_runNodes_cons hr with ⟨f, -, hres⟩ | ⟨s, c', ys, zs, hran, rfl, hgo⟩
    · cases hres
    have hof : s.entry.Of n := by
      obtain ⟨status, output, rfl⟩ := hran.step
      exact ⟨rfl, rfl⟩
    have hone : ∀ s' ∈ [s], ∃ n' ∈ n :: rest, s'.entry.Of n' :=
      List.forall_mem_singleton.2 ⟨n, List.mem_cons_self, hof⟩
    have hfits : (∀ s' ∈ [s], FitsCell s'.detail) ↔ ∀ x ∈ ys ++ [], x.Fits c.timeout := by
      rw [List.forall_mem_singleton, List.append_nil, hran.fits_iff]
    cases hgo with
    | failed hf => exact ⟨[s], rfl, hone, hfits⟩
    | paused hsucc hpaused hdue => exact ⟨[s], rfl, hone, hfits⟩
    | passed hsucc hpass hrest =>
      obtain ⟨ch, rfl⟩ := hran.context
      obtain ⟨steps, hsteps, hall, hiff⟩ := walk_fits (r := r.add s) hrest
      refine ⟨s :: steps, ?_, ?_, ?_⟩
      · rw [hsteps, Report.add, List.append_assoc, List.singleton_append]
      · rw [List.forall_mem_cons]
        refine ⟨⟨n, List.mem_cons_self, hof⟩, fun s' hs' => ?_⟩
        obtain ⟨n', hn', hof'⟩ := hall s' hs'
        exact ⟨n', List.mem_cons_of_mem _ hn', hof'⟩
      · rw [List.forall_mem_cons, List.forall_mem_append, hran.fits_iff, hiff]

/-- The type of a node that does what its type says fits into a cell. -/
theorem Chain.Node.Fits.fitsCell_type (hf : n.Fits) : FitsCell n.type := by
  have htypes : ∀ type ∈ Workflow.waitType :: Workflow.startingTypes ++ Workflow.sendingTypes,
      FitsCell type := by decide
  refine htypes _ ?_
  rcases n.cases_config with hconfig | ⟨amount, unit, hconfig⟩ | ha
  · unfold Fits at hf
    rw [hconfig] at hf
    exact List.mem_append_left _ (List.mem_cons_of_mem _ hf)
  · unfold Fits at hf
    rw [hconfig] at hf
    exact List.mem_append_left _ (List.mem_cons.2 (Or.inl hf))
  · exact List.mem_append_right _ (hf.sending_iff.2 ha)

/-- **The table of a run keeps its shape exactly if all that its exchanges show fits into cells**,
whatever the replies, where no node has an id with a bar or a line break. -/
theorem run_tabular_iff {d : Workflow.Definition} {chain : Chain} (hd : d.linearize = .ok chain)
    (hids : ∀ n ∈ chain.nodes, FitsCell n.id) {id : String} {start : Option String}
    {report : Report} {xs : List Exchange}
    (hr : (chain.runFrom h id c start).ComesTo P (.ok report) xs) :
    Tabular report.steps ↔ ∀ x ∈ xs, x.Fits c.timeout := by
  rcases runFrom_cases chain h id c start with ⟨heq, -⟩ | ⟨-, complaint, heq⟩
  · rw [heq] at hr
    obtain ⟨steps, hsteps, hof, hiff⟩ := walk_fits hr
    have hreport : report.steps = steps := hsteps
    have hnames : ∀ s ∈ steps, s.NamesFit := by
      intro s hs
      obtain ⟨n, hn, hid, htype⟩ := hof s hs
      have hmem := mem_of_ahead hn
      have hf := (Workflow.linearize_sound hd).fits n hmem
      exact ⟨(congrArg FitsCell hid).mpr (hids n hmem),
        (congrArg FitsCell htype).mpr hf.fitsCell_type⟩
    rw [hreport, tabular_iff hnames, hiff]
  · rw [heq] at hr
    obtain ⟨hres, rfl⟩ := Plan.comesTo_done.1 hr
    cases hres
    refine iff_of_true ((tabular_iff (List.forall_mem_nil _)).2 (List.forall_mem_nil _)) ?_
    exact List.forall_mem_nil _

namespace Answered

/-- A trigger and a handover behind it. -/
def definition : Workflow.Definition :=
  ⟨[⟨"start", "manual-trigger", .origin, []⟩,
    ⟨"agent", "agent-handoff", .origin, [("agentId", .str "closer")]⟩],
    [⟨"", "start", "agent"⟩], ⟨none⟩⟩

/-- Its chain. -/
def chain : Chain :=
  ⟨⟨"start", "manual-trigger", .trigger⟩,
    [⟨"start", "manual-trigger", .trigger⟩, ⟨"agent", "agent-handoff", .agent "closer" none⟩]⟩

theorem linearize_definition : definition.linearize = .ok chain := by decide +kernel

theorem fitsCell_ids : ∀ n ∈ chain.nodes, FitsCell n.id := by decide +kernel

/-- A context at any time of day. -/
def context : Context :=
  { (RunOptions.plain "execution-id" ⟨0, some 0⟩).context none with ignoreSendWindow := true }

/-- An agent that answers with an object. -/
def agent (fields : Json.Fields) : Collaborators Unit :=
  ⟨fun _ w => (.returned (.obj fields), w), true⟩

/-- A run over the chain. -/
def plan : Plan (Except Fault Report) := chain.runFrom true "execution-id" context none

/-- An answer with a list of two lines and with a table of its own among what is not shown. -/
def nested : Json.Fields :=
  [("lines", .arr [.str "Hi Ada,\nshall we talk?"]), ("raw", .str "| a | b |")]

/-- An answer with a message of two lines. -/
def twoLines : Json.Fields := [("suggestedReply", .str "Hi Ada,\nshall we talk tomorrow?")]

end Answered

/-- What is not shown does not matter, nor does a line break inside a list: it is written as an
escape. -/
theorem run_tabular_nested : Answered.definition.linearize = .ok Answered.chain ∧
    (∀ n ∈ Answered.chain.nodes, FitsCell n.id) ∧ ∃ report,
      (Answered.plan.run (Answered.agent Answered.nested) ()).1 = .ok report ∧
        report.steps.length = 2 ∧ Tabular report.steps := by
  refine ⟨Answered.linearize_definition, Answered.fitsCell_ids, ?_⟩
  have hcomes := Plan.comesTo_run (Answered.agent Answered.nested).reply_any Answered.plan ()
  have hlength : (((Answered.plan.run (Answered.agent Answered.nested) ()).1.toOption.map
      fun report => report.steps.length)) = some 2 := by decide +kernel
  cases hres : (Answered.plan.run (Answered.agent Answered.nested) ()).1 with
  | error f =>
    rw [hres] at hlength
    cases hlength
  | ok report =>
    rw [hres] at hcomes hlength
    refine ⟨report, rfl, Option.some.inj hlength, ?_⟩
    exact (run_tabular_iff Answered.linearize_definition Answered.fitsCell_ids hcomes).2
      (by decide +kernel)

/-- **A message of two lines breaks its row**: the table of the two steps has three lines. -/
theorem two_lines_break_the_table : Answered.definition.linearize = .ok Answered.chain ∧
    (∀ n ∈ Answered.chain.nodes, FitsCell n.id) ∧ ∃ report,
      (Answered.plan.run (Answered.agent Answered.twoLines) ()).1 = .ok report ∧
        report.steps.length = 2 ∧ ¬ Tabular report.steps := by
  refine ⟨Answered.linearize_definition, Answered.fitsCell_ids, ?_⟩
  have hlength : (((Answered.plan.run (Answered.agent Answered.twoLines) ()).1.toOption.map
      fun report => (report.steps.length, (tableLines report.steps).length))) = some (2, 3) := by
    decide +kernel
  cases hres : (Answered.plan.run (Answered.agent Answered.twoLines) ()).1 with
  | error f =>
    rw [hres] at hlength
    cases hlength
  | ok report =>
    rw [hres] at hlength
    obtain ⟨htwo, hthree⟩ := Prod.mk.inj (Option.some.inj hlength)
    exact ⟨report, rfl, htwo, fun h => absurd (hthree.symm.trans (h.length.trans htwo)) (by decide)⟩

end Cadence
