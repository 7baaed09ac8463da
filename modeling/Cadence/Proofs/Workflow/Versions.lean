/-
# Names of versions

The file of a version is named by the id, `-v`, the number and an ending. The number has no letters
in it, so the last `-v` of the name is the one before the number, whatever the id looks like: names
tell ids and numbers apart (`nameOf_inj`), and the number is found again (`number_of`).

The versions of a workflow are found by a pattern. An id without stars, question marks, brackets and
slashes stands for itself in it. Then a file counts for the id exactly if it is a version of this
very id (`counts_iff`), also where ids end in `-v` and digits. A double star makes no pattern at all
(`versions_cases`).

Key definitions: `IsPlainId`, `File.of`, `File.counts`, `CanPublish`.
Key theorems: `nameOf_inj`, `number_of`, `counts_iff`, `versions_cases`, `publish_cases`.
-/
import Cadence.Proofs.Checks
import Cadence.Proofs.Text.Glob
import Cadence.Proofs.Time.Iso
import Cadence.Workflow.Files

namespace Cadence
namespace Workflow

/-- An id that makes no path and stands for itself in patterns. -/
structure IsPlainId (id : String) : Prop where
  slash : '/' ∉ id.toList
  plain : Glob.IsPlain id.toList

instance (id : String) : Decidable (IsPlainId id) :=
  decidable_of_iff ('/' ∉ id.toList ∧ Glob.IsPlain id.toList)
    ⟨fun h => ⟨h.1, h.2⟩, fun h => ⟨h.slash, h.plain⟩⟩

/-! ### Numbers as text -/

/-- The characters of a number. -/
def figures (v : Int) : List Char := (toString v).toList

theorem figures_ofNat (n : Nat) : figures n = Nat.toDigits 10 n := String.toList_ofList

theorem figures_negSucc (n : Nat) : figures (.negSucc n) = '-' :: Nat.toDigits 10 (n + 1) := by
  show ("-" ++ String.ofList (Nat.toDigits 10 (n + 1))).toList = _
  simp only [String.toList_append, String.toList_ofList]
  rfl

theorem isDigit_toDigits {n : Nat} {c : Char} (h : c ∈ Nat.toDigits 10 n) : c.isDigit = true :=
  Nat.isDigit_of_mem_toDigits (by decide) (by decide) h

/-- A number consists of digits and perhaps a minus sign. -/
theorem mem_figures {v : Int} {c : Char} (h : c ∈ figures v) : c = '-' ∨ c.isDigit = true := by
  cases v with
  | ofNat n =>
    rw [show figures (.ofNat n) = Nat.toDigits 10 n from figures_ofNat n] at h
    exact Or.inr (isDigit_toDigits h)
  | negSucc n =>
    rw [figures_negSucc] at h
    rcases List.mem_cons.1 h with rfl | h
    · exact Or.inl rfl
    · exact Or.inr (isDigit_toDigits h)

theorem not_mem_figures {v : Int} {c : Char} (hd : c.isDigit = false) (hm : c ≠ '-') :
    c ∉ figures v := by
  intro h
  rcases mem_figures h with rfl | h
  · exact hm rfl
  · exact Bool.false_ne_true (hd.symm.trans h)

theorem figures_ne_nil (v : Int) : figures v ≠ [] := by
  cases v with
  | ofNat n =>
    rw [show figures (.ofNat n) = Nat.toDigits 10 n from figures_ofNat n]
    exact Nat.toDigits_ne_nil
  | negSucc n =>
    rw [figures_negSucc]
    exact List.cons_ne_nil _ _

/-- A digit is one of the first script. -/
theorem decimalDigit?_isDigit {c : Char} (h : c.isDigit = true) :
    Text.decimalDigit? c = some (c.toNat - 48) := by
  have hrange : 48 ≤ c.toNat ∧ c.toNat ≤ 57 := by
    simp only [Char.isDigit, Bool.and_eq_true, decide_eq_true_eq, UInt32.le_iff_toNat_le] at h
    exact h
  unfold Text.decimalDigit? Text.decimalZeros
  rw [List.find?_cons_of_pos (by simp; omega)]
  rfl

theorem digits_value (n : Nat) : ((Nat.toDigits 10 n).mapM Text.decimalDigit?).map
    (fun ns => ns.foldl (fun n d => n * 10 + d) 0) = some n := by
  have hmap : ∀ {cs : List Char}, (∀ c ∈ cs, c.isDigit = true) →
      cs.mapM Text.decimalDigit? = some (cs.map fun c => c.toNat - 48) := by
    intro cs
    induction cs with
    | nil => exact fun _ => rfl
    | cons c cs ih =>
      intro h
      rw [List.mapM_cons, decimalDigit?_isDigit (h c List.mem_cons_self),
        ih fun d hd => h d (List.mem_cons_of_mem _ hd)]
      rfl
  have hvalue := Time.foldl_padded 0 n
  unfold Time.padded at hvalue
  rw [hmap fun c hc => isDigit_toDigits hc, Option.map_some, List.foldl_map]
  simpa using hvalue

/-- A number is read from its figures. -/
theorem numberIn_figures (v : Int) : File.numberIn (figures v) = .ok v := by
  have hne : ∀ n, (Nat.toDigits 10 n).isEmpty = false := by
    intro n
    rw [List.isEmpty_eq_false_iff]
    exact Nat.toDigits_ne_nil
  cases v with
  | ofNat n =>
    have hhead : ∀ ds, Nat.toDigits 10 n ≠ '-' :: ds := by
      intro ds heq
      have hdash : '-' ∈ Nat.toDigits 10 n := by
        rw [heq]
        exact List.mem_cons_self
      exact absurd (isDigit_toDigits hdash) (by decide)
    rw [show figures (.ofNat n) = Nat.toDigits 10 n from figures_ofNat n]
    unfold File.numberIn
    dsimp only
    split
    · rename_i heq
      split at heq
      · rename_i hcs
        exact absurd hcs (hhead _)
      · rw [hne, if_neg Bool.false_ne_true, digits_value] at heq
        cases heq
        rfl
    · rename_i heq
      split at heq
      · rename_i hcs
        exact absurd hcs (hhead _)
      · rw [hne, if_neg Bool.false_ne_true, digits_value] at heq
        cases heq
  | negSucc n =>
    rw [figures_negSucc]
    unfold File.numberIn
    simp only [hne, Bool.false_eq_true, if_false, digits_value]
    rfl

/-! ### Names -/

theorem nameOf_toList (id : String) (v : Int) :
    (File.nameOf id v).toList = id.toList ++ '-' :: 'v' :: (figures v ++ ".json".toList) := by
  unfold File.nameOf
  simp only [String.toList_append, List.append_assoc]
  rfl

/-- The last of several letters tells where a list is cut. -/
theorem append_cons_inj {c : Char} {as bs as' bs' : List Char} (hb : c ∉ bs) (hb' : c ∉ bs')
    (heq : as ++ c :: bs = as' ++ c :: bs') : as = as' ∧ bs = bs' := by
  have hcut : ∀ {as bs : List Char}, c ∉ bs →
      (as ++ c :: bs).reverse.takeWhile (· ≠ c) = bs.reverse := by
    intro as bs hb
    have hall : ∀ d ∈ bs.reverse, decide (d ≠ c) = true := by
      intro d hd
      rw [decide_eq_true_eq]
      rintro rfl
      exact hb (List.mem_reverse.1 hd)
    rw [List.reverse_append, List.reverse_cons, List.append_assoc, List.singleton_append,
      List.takeWhile_append_of_pos hall, List.takeWhile_cons_of_neg (by simp), List.append_nil]
  have hbs : bs.reverse = bs'.reverse := by rw [← hcut hb, heq, hcut hb']
  obtain rfl := List.reverse_injective hbs
  exact ⟨List.append_cancel_right heq, rfl⟩

/-- What stands before and behind the last mark of a text without further letters `v`. -/
theorem mark_inj {as bs as' bs' : List Char} (hb : 'v' ∉ bs) (hb' : 'v' ∉ bs')
    (heq : as ++ '-' :: 'v' :: bs = as' ++ '-' :: 'v' :: bs') : as = as' ∧ bs = bs' := by
  rw [List.append_cons, List.append_cons as'] at heq
  obtain ⟨has, hbs⟩ := append_cons_inj hb hb' heq
  exact ⟨List.append_cancel_right has, hbs⟩

/-- **A name tells the id and the number.** -/
theorem nameOf_inj {a b : String} {m n : Int} (heq : File.nameOf a m = File.nameOf b n) :
    a = b ∧ m = n := by
  have hchars := congrArg String.toList heq
  rw [nameOf_toList, nameOf_toList] at hchars
  have hv : ∀ v : Int, 'v' ∉ figures v ++ ".json".toList := by
    intro v
    rw [List.mem_append, not_or]
    exact ⟨not_mem_figures (by decide) (by decide), by decide⟩
  obtain ⟨hid, hrest⟩ := mark_inj (hv m) (hv n) hchars
  have hnumber := numberIn_figures m
  rw [List.append_cancel_right hrest, numberIn_figures] at hnumber
  exact ⟨String.toList_inj.1 hid, (Except.ok.inj hnumber).symm⟩

/-- The file of a record. -/
def File.of (r : Record) : File := ⟨.home, nameOf r.id r.version, r.toJson.finiteOnly⟩

theorem stem_of (r : Record) :
    (File.of r).stem = r.id.toList ++ '-' :: 'v' :: figures r.version := by
  have hname : (File.of r).name.toList =
      (r.id.toList ++ '-' :: 'v' :: figures r.version) ++ ".json".toList := by
    show (File.nameOf r.id r.version).toList = _
    rw [nameOf_toList]
    simp
  unfold File.stem
  rw [← String.length_toList, hname, List.length_append]
  exact List.take_left

/-- Behind the last mark of a text stands what follows it. -/
theorem afterLastMark_append {bs : List Char} (hb : 'v' ∉ bs) : ∀ as : List Char,
    File.afterLastMark (as ++ '-' :: 'v' :: bs) = bs
  | [] => by
    have hnone : ¬ ((('v' :: bs).zip ('v' :: bs).tail).any fun p => p.1 = '-' && p.2 = 'v') =
        true := by
      rw [Bool.not_eq_true, List.any_eq_false]
      intro p hp
      have hne : p.2 ≠ 'v' := by
        intro heq
        have hin := (List.of_mem_zip hp).2
        rw [heq] at hin
        exact hb hin
      simp [hne]
    rw [List.nil_append, File.afterLastMark]
    exact (if_neg hnone).trans rfl
  | a :: as => by
    have hsome : (((as ++ '-' :: 'v' :: bs).zip (as ++ '-' :: 'v' :: bs).tail).any
        fun p => p.1 = '-' && p.2 = 'v') = true := by
      rw [List.any_eq_true]
      refine ⟨('-', 'v'), ?_, rfl⟩
      have hat : ∀ as : List Char, ('-', 'v') ∈
          (as ++ '-' :: 'v' :: bs).zip (as ++ '-' :: 'v' :: bs).tail := by
        intro as
        induction as with
        | nil => exact List.mem_cons_self
        | cons x xs ih =>
          have hcons : ∃ y ys, xs ++ '-' :: 'v' :: bs = y :: ys := by
            cases xs <;> exact ⟨_, _, rfl⟩
          obtain ⟨y, ys, hys⟩ := hcons
          rw [hys] at ih
          rw [List.cons_append, List.tail_cons, hys, List.zip_cons_cons]
          exact List.mem_cons_of_mem _ ih
      exact hat as
    rw [List.cons_append, File.afterLastMark]
    exact (if_pos hsome).trans (afterLastMark_append hb as)

/-- **The number of a record's file is the version of the record.** -/
theorem number_of (r : Record) : (File.of r).number = .ok r.version := by
  unfold File.number
  rw [stem_of, afterLastMark_append (not_mem_figures (by decide) (by decide)), numberIn_figures]

/-! ### Finding versions -/

/-- Whether a file counts as a version of an id. -/
def File.counts (id : String) (f : File) : Bool :=
  let rest := f.stem.drop (id.length + 2)
  (f.folder = .home && Glob.accepts (id ++ "-v*.json") f.name) &&
    (!rest.isEmpty && rest.all fun c => (Text.decimalDigit? c).isSome)

theorem splitOn_plain {s : String} (h : '/' ∉ s.toList) : Text.splitOn '/' s = [s] := by
  unfold Text.splitOn List.splitOn
  rw [List.splitOnP_eq_singleton fun x hx => by
    rw [beq_eq_false_iff_ne]
    rintro rfl
    exact h hx]
  rw [List.map_singleton, String.ofList_toList]

/-- A text without slashes that is more than a point is a path of one name. -/
theorem parts_plain {s : String} (h : '/' ∉ s.toList) (hlen : 1 < s.length) :
    Path.parts s = [s] := by
  unfold Path.parts
  rw [splitOn_plain h]
  refine List.filter_eq_self.2 ?_
  intro t ht
  rw [List.mem_singleton.1 ht]
  have hempty : s ≠ "" := by
    rintro rfl
    exact absurd hlen (by decide)
  have hpoint : s ≠ "." := by
    rintro rfl
    exact absurd hlen (by decide)
  simp [hempty, hpoint]

theorem not_rooted {s : String} (h : '/' ∉ s.toList) : Path.isRooted s = false := by
  unfold Path.isRooted
  rw [decide_eq_false_iff_not]
  intro heq
  exact h (List.mem_of_mem_head? heq)

theorem mem_pattern {id : String} (h : '/' ∉ id.toList) : '/' ∉ (id ++ "-v*.json").toList := by
  rw [String.toList_append, List.mem_append, not_or]
  exact ⟨h, by decide⟩

/-- Two stars next to each other in a pattern stand so in the id. -/
theorem hasPair_pattern (id : String) :
    Text.hasPair '*' (id ++ "-v*.json") = Text.hasPair '*' id := by
  have hcons : ∀ (c : Char) (cs : List Char),
      (((c :: cs).zip cs).any fun p => p.1 = '*' && p.2 = '*') =
        ((c = '*' && cs.head? = some '*') || (cs.zip cs.tail).any fun p => p.1 = '*' && p.2 = '*')
      := by
    intro c cs
    cases cs with
    | nil => simp
    | cons d cs => simp
  have hlist : ∀ cs : List Char,
      (((cs ++ "-v*.json".toList).zip (cs ++ "-v*.json".toList).tail).any
        fun p => p.1 = '*' && p.2 = '*') = (cs.zip cs.tail).any fun p => p.1 = '*' && p.2 = '*' := by
    intro cs
    induction cs with
    | nil => decide
    | cons c cs ih =>
      have hhead : ((cs ++ "-v*.json".toList).head? = some '*') = (cs.head? = some '*') := by
        cases cs <;> simp
      rw [List.cons_append, List.tail_cons, List.tail_cons, hcons, hcons, ih]
      simp only [hhead]
  unfold Text.hasPair
  rw [String.toList_append]
  exact hlist id.toList

/-- **The versions of an id without slashes** are the files that count for it; there is no pattern
for an id with a double star. -/
theorem versions_cases {id : String} (h : '/' ∉ id.toList) (files : Files) :
    files.versions id =
      if Text.hasPair '*' id then .error .malformed else .ok (files.filter (File.counts id)) := by
  have hlen : 1 < (id ++ "-v*.json").length := by
    rw [String.length_append, show "-v*.json".length = 8 from rfl]
    omega
  have hparts := parts_plain (mem_pattern h) hlen
  have hdouble : (id ++ "-v*.json" ≠ "**") := by
    intro heq
    have hlong := congrArg String.length heq
    rw [String.length_append, show "-v*.json".length = 8 from rfl, show "**".length = 2 from rfl]
      at hlong
    omega
  have hpattern : Files.patternOf id =
      if Text.hasPair '*' id then .error .malformed else .ok [id ++ "-v*.json"] := by
    unfold Files.patternOf
    simp only [not_rooted (mem_pattern h), hparts, Bool.false_eq_true, if_false,
      show [id ++ "-v*.json"].take Files.longestPattern = [id ++ "-v*.json"] from rfl,
      List.any_cons, List.any_nil, Bool.or_false, hdouble, ne_eq, not_false_eq_true, decide_true,
      Bool.true_and, hasPair_pattern, List.length_singleton,
      show ¬ Files.longestPattern < 1 from by decide]
  unfold Files.versions
  rw [hpattern]
  split
  · rfl
  · have hselect : files.select [id ++ "-v*.json"] [.home] =
        .ok (files.filter fun f =>
          f.folder = .home && Glob.accepts (id ++ "-v*.json") f.name) := by
      unfold Files.select
      refine congrArg Except.ok (List.filter_congr fun f _ => ?_)
      simp
    refine bind_eq_ok.2 ⟨_, rfl, bind_eq_ok.2 ⟨_, hselect, ?_⟩⟩
    refine congrArg Except.ok ?_
    rw [List.filter_filter]
    refine List.filter_congr fun f _ => ?_
    exact Bool.and_comm _ _

/-- No letter is a digit of any script, and neither is a minus sign. -/
theorem not_decimalDigit {cs : List Char}
    (h : (cs.all fun c => (Text.decimalDigit? c).isSome) = true) : 'v' ∉ cs ∧ '-' ∉ cs := by
  constructor <;> intro hmem <;>
    exact absurd (List.all_eq_true.1 h _ hmem) (by decide)

/-- Behind an id and its mark stands the number. -/
theorem drop_mark (id : String) (cs : List Char) :
    (id.toList ++ '-' :: 'v' :: cs).drop (id.length + 2) = cs := by
  rw [List.append_cons, List.append_cons]
  refine List.drop_left' ?_
  simp [← String.length_toList]

/-- The pattern of a plain id accepts the names that begin with it and its mark. -/
theorem accepts_version {id : String} (h : IsPlainId id) (name : String) :
    Glob.accepts (id ++ "-v*.json") name = true ↔
      ∃ middle, name.toList = (id.toList ++ "-v".toList) ++ (middle ++ ".json".toList) := by
  have hplain : Glob.IsPlain (id.toList ++ "-v".toList) := by
    intro c hc
    rcases List.mem_append.1 hc with hc | hc
    · exact h.plain c hc
    · exact (show Glob.IsPlain "-v".toList by decide) c hc
  have hpattern : id ++ "-v*.json" =
      String.ofList ((id.toList ++ "-v".toList) ++ '*' :: ".json".toList) := by
    rw [← String.toList_inj]
    simp only [String.toList_append, String.toList_ofList, List.append_assoc]
    rfl
  rw [hpattern]
  exact Glob.accepts_around hplain (by decide)

/-- **A file counts for a plain id exactly if it is a version of this very id**, unless its number is
negative. -/
theorem counts_iff {id : String} (h : IsPlainId id) (r : Record) :
    (File.of r).counts id = true ↔ r.id = id ∧ 0 ≤ r.version := by
  have hname : (File.of r).name = File.nameOf r.id r.version := rfl
  have hfolder : ((File.of r).folder = .home) = True := eq_true rfl
  unfold File.counts
  simp only [Bool.and_eq_true, hfolder, decide_true, true_and, Bool.not_eq_true',
    List.isEmpty_eq_false_iff]
  rw [accepts_version h, hname, nameOf_toList, stem_of]
  constructor
  · rintro ⟨⟨middle, hname⟩, -, hdigits⟩
    have hstem : r.id.toList ++ '-' :: 'v' :: figures r.version =
        id.toList ++ '-' :: 'v' :: middle := by
      have hending : (r.id.toList ++ '-' :: 'v' :: figures r.version) ++ ".json".toList =
          (id.toList ++ '-' :: 'v' :: middle) ++ ".json".toList := by
        simpa using hname
      exact List.append_cancel_right hending
    rw [hstem, drop_mark] at hdigits
    obtain ⟨hv, hdash⟩ := not_decimalDigit hdigits
    obtain ⟨hid, hfigures⟩ := mark_inj (not_mem_figures (by decide) (by decide)) hv hstem
    refine ⟨String.toList_inj.1 hid, ?_⟩
    cases hversion : r.version with
    | ofNat n => exact Int.natCast_nonneg n
    | negSucc n =>
      rw [hversion, figures_negSucc] at hfigures
      rw [← hfigures] at hdash
      exact absurd List.mem_cons_self hdash
  · rintro ⟨rfl, hnonneg⟩
    obtain ⟨n, hn⟩ := Int.eq_ofNat_of_zero_le hnonneg
    rw [drop_mark]
    refine ⟨⟨figures r.version, ?_⟩, figures_ne_nil _, ?_⟩
    · simp
    · rw [hn, figures_ofNat, List.all_eq_true]
      intro c hc
      rw [decimalDigit?_isDigit (isDigit_toDigits hc)]
      rfl

/-! ### New files -/

/-- Whether the file of a record can be written: its name is a name and not too long, and neither
are its data nested too deep nor its texts broken. -/
def CanPublish (r : Record) : Bool :=
  !Path.hasNul (File.nameOf r.id r.version) &&
    decide ((File.nameOf r.id r.version).utf8ByteSize ≤ Files.longestPublished) &&
    (r.definition.isShallow && !r.toJson.hasHalf)

/-- A name that is not too long leads to the home directory and itself. -/
theorem locate_plain (t : Tree) {name : String} (h : '/' ∉ name.toList) (hlen : 1 < name.length)
    (hsize : name.utf8ByteSize ≤ Files.longestPublished) : t.locate name = .ok (.home, name) := by
  have hpath : ¬ Path.longestPath < ("/".intercalate [name]).utf8ByteSize := by
    have hlimit : Files.longestPublished ≤ Path.longestPath := by decide
    rw [show "/".intercalate [name] = name from rfl]
    omega
  have hname : ¬ Path.longestName < name.utf8ByteSize := by
    have hlimit : Files.longestPublished ≤ Path.longestName := by decide
    omega
  unfold Tree.locate
  simp only [parts_plain h hlen, not_rooted h, hpath, if_false]
  simp only [List.getLast?_singleton, hname, if_false]
  rfl

theorem nameOf_plain {id : String} (h : '/' ∉ id.toList) (v : Int) :
    '/' ∉ (File.nameOf id v).toList ∧ 1 < (File.nameOf id v).length := by
  rw [← String.length_toList, nameOf_toList]
  constructor
  · simp only [List.mem_append, List.mem_cons, not_or]
    exact ⟨h, by decide, by decide, not_mem_figures (by decide) (by decide), by decide⟩
  · simp only [List.length_append, List.length_cons]
    omega

/-- What publishing a record looks at, in order. -/
theorem publish_eq {r : Record} (h : '/' ∉ r.id.toList) (files : Files) :
    files.publish r =
      if Path.hasNul (File.nameOf r.id r.version) then .error .malformed
      else if Files.longestPublished < (File.nameOf r.id r.version).utf8ByteSize then
        .error .longName
      else if !r.definition.isShallow || r.toJson.hasHalf then .error .unwritable
      else if (files.fileAt? .home (File.nameOf r.id r.version)).isSome then .error .fileExists
      else .ok (File.nameOf r.id r.version, File.of r :: files) := by
  obtain ⟨hslash, hlen⟩ := nameOf_plain h r.version
  have hlast : (Path.parts (File.nameOf r.id r.version)).getLast?.getD "" =
      File.nameOf r.id r.version := by
    rw [parts_plain hslash hlen]
    rfl
  have hroot : ¬ Folder.home = .root := by decide
  unfold Files.publish
  simp only [hlast]
  split
  · rfl
  · split
    · rfl
    · rename_i hshort
      have hlocate := locate_plain files.tree hslash hlen (Nat.not_lt.1 hshort)
      split
      · rfl
      · rw [hlocate]
        simp only [Except.mapError, bind, Except.bind, hroot, if_false]
        split <;> rfl

/-- **A record is published under its name**, unless its file cannot be written or is there. -/
theorem publish_cases {r : Record} (h : '/' ∉ r.id.toList) (files : Files) :
    CanPublish r = true ∧ files.publish r =
        (if (files.fileAt? .home (File.nameOf r.id r.version)).isSome then .error .fileExists
          else .ok (File.nameOf r.id r.version, File.of r :: files)) ∨
      CanPublish r = false ∧ ∃ f, f ≠ Fault.fileExists ∧ files.publish r = .error f := by
  rw [publish_eq h]
  unfold CanPublish
  split
  · rename_i hnul
    exact Or.inr ⟨by simp [hnul], .malformed, by decide, rfl⟩
  · rename_i hnul
    split
    · rename_i hlong
      exact Or.inr ⟨by simp [Nat.not_le.2 hlong], .longName, by decide, rfl⟩
    · rename_i hshort
      split
      · rename_i hbad
        refine Or.inr ⟨?_, .unwritable, by decide, rfl⟩
        cases hshallow : r.definition.isShallow <;> cases hhalf : r.toJson.hasHalf <;>
          simp [hshallow, hhalf] at hbad ⊢
      · rename_i hgood
        refine Or.inl ⟨?_, rfl⟩
        have hgood' : r.definition.isShallow = true ∧ r.toJson.hasHalf = false := by
          simpa using hgood
        simp [hnul, Nat.not_lt.1 hshort, hgood']

end Workflow
end Cadence
