import LineScript.Proofs.Function.Returning
import LineScript.Proofs.Number.Order
import LineScript.Proofs.Run.WholeLines

/-! Sorting a buffer. Lines are compared by the numbers at their start and by their texts, which is a total preorder;
sorted, they are in ascending order, and equal ones stay in the order in which they were. -/
namespace LineScript

namespace Number

theorem unsigned?_ne_nan {x : Double} {neg : Bool} {cs : List Char} (h : unsigned? neg cs = some x) : x ≠ .nan := by
  unfold unsigned? at h
  dsimp only at h
  split_ifs at h
  obtain ⟨k, -, rfl⟩ := Option.map_eq_some_iff.mp h
  exact Double.ofScaledDecimal_ne_nan _ _ _

theorem takeSign_cons (c : Char) (cs : List Char) : takeSign (c :: cs) =
    if c = '-' then (true, cs) else if c = '+' then (false, cs) else (false, c :: cs) := by
  unfold takeSign
  split
  · next heq =>
    cases heq
    rfl
  · next heq =>
    cases heq
    rfl
  · next hminus hplus =>
    have hm : c ≠ '-' := fun h => hminus cs (by rw [h])
    have hp : c ≠ '+' := fun h => hplus cs (by rw [h])
    rw [if_neg hm, if_neg hp]

/-- Whether a character is one of those of a decimal without a sign. -/
def isDecimal (c : Char) : Bool :=
  c.isDigit || c == '.'

theorem toLower_of_isDecimal {c : Char} (hc : isDecimal c = true) : c.toLower = c := by
  rcases Bool.or_eq_true_iff.mp hc with hdigit | hpoint
  · exact toLower_of_isDigit hdigit
  · rw [beq_iff_eq.mp hpoint]
    decide

/-- What has no letters behind its sign is no word. -/
theorem ofText?_of_decimal {cs : List Char} (h : ∀ c ∈ (takeSign cs).2, isDecimal c = true) :
    ofText? cs = unsigned? (takeSign cs).1 (takeSign cs).2 := by
  have hword (w : List Char) (hw : w.all isDecimal = false) : (takeSign cs).2.map Char.toLower ≠ w := by
    intro heq
    have hall : ((takeSign cs).2.map Char.toLower).all isDecimal = true := by
      rw [List.all_map, List.all_eq_true]
      intro c hc
      rw [Function.comp_apply, toLower_of_isDecimal (h c hc), h c hc]
    rw [heq, hw] at hall
    cases hall
  unfold ofText?
  dsimp only
  rw [if_neg (not_or.mpr ⟨hword _ (by decide), hword _ (by decide)⟩), if_neg (hword _ (by decide))]

end Number

open Number (Double isDecimal takeSign unsigned?)

namespace SortFlags

variable {f : SortFlags} {a b line : String} {lines sorted : List String}

/-- Behind the sign stand digits and points. -/
theorem isDecimal_of_mem_numberText {c : Char} (hc : c ∈ (takeSign (numberText line)).2) : isDecimal c = true := by
  unfold numberText at hc
  dsimp only at hc
  split at hc
  · cases hc
  · next d ds _ =>
    have htail (e : Char) (he : e ∈ ds.takeWhile isDecimal) : isDecimal e = true := List.mem_takeWhile_imp he
    split at hc
    · next hfirst =>
      rw [Number.takeSign_cons] at hc
      split_ifs at hc with hminus hplus
      · exact htail c hc
      · exact htail c hc
      · rcases List.mem_cons.mp hc with rfl | hc
        · simpa [isDecimal, hminus, hplus] using hfirst
        · exact htail c hc
    · cases hc

theorem leadingNumber_ne_nan (line : String) : leadingNumber line ≠ .nan := by
  have hdecimal : ∀ c ∈ (takeSign (numberText line)).2, isDecimal c = true := fun c => isDecimal_of_mem_numberText
  unfold leadingNumber
  rw [Number.ofText?_of_decimal hdecimal]
  cases hread : unsigned? (takeSign (numberText line)).1 (takeSign (numberText line)).2 with
  | none => exact Double.noConfusion
  | some x => exact Number.unsigned?_ne_nan hread

/-- The text of a line that is compared. -/
def text (f : SortFlags) (line : String) : String :=
  if f.ignoreCase then Unicode.lowerCase line else line

/-- The order of lines by the numbers at their start, if they count. -/
def byNumber (f : SortFlags) (a b : String) : Ordering :=
  if f.numeric then compare (leadingNumber a).value (leadingNumber b).value else .eq

theorem order_eq (f : SortFlags) (a b : String) : f.order a b = (f.byNumber a b).then (compare (f.text a) (f.text b)) := by
  unfold order byNumber text
  rw [Double.compare?_eq (leadingNumber_ne_nan a) (leadingNumber_ne_nan b), Option.getD_some]
  cases f.ignoreCase <;> rfl

instance (f : SortFlags) : Std.TransCmp f.byNumber := by
  unfold byNumber
  cases f.numeric
  · exact { eq_swap := rfl, isLE_trans := fun _ _ => rfl }
  · exact inferInstanceAs (Std.TransCmp (compareOn fun line => (leadingNumber line).value))

/-- The order of lines is a total preorder. -/
instance (f : SortFlags) : Std.TransCmp f.order := by
  have horder : f.order = compareLex f.byNumber (compareOn f.text) := funext₂ f.order_eq
  rw [horder]
  infer_instance

/-- Whether lines are equal in the order. -/
def alike (f : SortFlags) (a b : String) : Bool :=
  f.order a b == .eq

/-- Whether lines are others in ascending order. Of the lines that are equal to a line there are those that there were,
in the order in which they were, or only the first of them if others are to go. -/
structure Sorts (f : SortFlags) (lines sorted : List String) : Prop where
  ascending : sorted.Pairwise fun a b => (f.order a b).isLE
  classes : ∀ a, sorted.filter (f.alike a) =
    if f.unique then (lines.filter (f.alike a)).take 1 else lines.filter (f.alike a)

theorem alike_self (f : SortFlags) (a : String) : f.alike a a = true :=
  beq_iff_eq.mpr Std.ReflCmp.compare_self

theorem alike_iff : f.alike a b = true ↔ f.order a b = .eq :=
  beq_iff_eq

theorem alike_congr (h : f.order a b = .eq) (c : String) : f.alike c a = f.alike c b := by
  unfold alike
  rw [Std.TransCmp.congr_right h]

theorem isLE_eq (f : SortFlags) (a b : String) : (f.order a b != .gt) = (f.order a b).isLE := by
  cases f.order a b <;> rfl

theorem mem_of_classes {xs ys : List String} (h : ∀ a, xs.filter (f.alike a) = ys.filter (f.alike a)) (ha : a ∈ xs) :
    a ∈ ys := by
  have hclass : a ∈ xs.filter (f.alike a) := List.mem_filter.mpr ⟨ha, f.alike_self a⟩
  rw [h] at hclass
  exact (List.mem_filter.mp hclass).1

theorem head_isLE {xs : List String} (h : ∀ b ∈ xs, (f.order a b).isLE) (hline : line ∈ a :: xs) :
    (f.order a line).isLE := by
  rcases List.mem_cons.mp hline with rfl | hline
  · have hself : f.order line line = .eq := Std.ReflCmp.compare_self
    rw [hself]
    rfl
  · exact h line hline

/-- A list in ascending order is known by its classes of equal lines. -/
theorem eq_of_classes {xs ys : List String} (hx : xs.Pairwise fun a b => (f.order a b).isLE)
    (hy : ys.Pairwise fun a b => (f.order a b).isLE) (h : ∀ a, xs.filter (f.alike a) = ys.filter (f.alike a)) :
    xs = ys := by
  induction xs generalizing ys with
  | nil =>
    cases ys with
    | nil => rfl
    | cons y ys => exact absurd (mem_of_classes (fun a => (h a).symm) List.mem_cons_self) List.not_mem_nil
  | cons x xs ih =>
    cases ys with
    | nil => exact absurd (mem_of_classes h List.mem_cons_self) List.not_mem_nil
    | cons y ys =>
      obtain ⟨hxs, hxrest⟩ := List.pairwise_cons.mp hx
      obtain ⟨hys, hyrest⟩ := List.pairwise_cons.mp hy
      -- either head is among the least lines of the other list, so both are the first of one class
      have hhead : x = y := by
        have heq : f.order x y = .eq := Std.OrientedCmp.isLE_antisymm
          (head_isLE hxs (mem_of_classes (fun a => (h a).symm) List.mem_cons_self))
          (head_isLE hys (mem_of_classes h List.mem_cons_self))
        have hfirst := h x
        rw [List.filter_cons_of_pos (f.alike_self x), List.filter_cons_of_pos (alike_iff.mpr heq)] at hfirst
        exact (List.cons.inj hfirst).1
      subst hhead
      congr 1
      refine ih hxrest hyrest fun a => ?_
      have hclass := h a
      simp only [List.filter_cons] at hclass
      split at hclass
      · exact (List.cons.inj hclass).2
      · exact hclass

/-- There is only one way to sort lines. -/
theorem Sorts.unique {xs ys : List String} (hx : f.Sorts lines xs) (hy : f.Sorts lines ys) : xs = ys :=
  eq_of_classes hx.ascending hy.ascending fun a => (hx.classes a).trans (hy.classes a).symm

/-- Every line comes from the old ones. -/
theorem Sorts.subset (h : f.Sorts lines sorted) : sorted ⊆ lines := by
  intro a ha
  have hclass : a ∈ sorted.filter (f.alike a) := List.mem_filter.mpr ⟨ha, f.alike_self a⟩
  rw [h.classes a] at hclass
  split at hclass
  · exact (List.mem_filter.mp (List.mem_of_mem_take hclass)).1
  · exact (List.mem_filter.mp hclass).1

/-- Only the classes of the lines that are there have to be looked at. -/
theorem sorts_iff : f.Sorts lines sorted ↔ (sorted.Pairwise fun a b => (f.order a b).isLE) ∧ (∀ a ∈ sorted, a ∈ lines) ∧
    ∀ a ∈ lines, sorted.filter (f.alike a) =
      if f.unique then (lines.filter (f.alike a)).take 1 else lines.filter (f.alike a) := by
  constructor
  · intro h
    exact ⟨h.ascending, h.subset, fun a _ => h.classes a⟩
  · rintro ⟨hascending, hsubset, hclasses⟩
    refine ⟨hascending, fun a => ?_⟩
    by_cases hclass : ∃ b ∈ lines, f.order a b = .eq
    · obtain ⟨b, hb, heq⟩ := hclass
      have hsame : f.alike a = f.alike b := by
        funext c
        unfold alike
        rw [Std.TransCmp.congr_left heq]
      rw [hsame]
      exact hclasses b hb
    · have hnone : lines.filter (f.alike a) = [] := by
        rw [List.filter_eq_nil_iff]
        exact fun b hb hlike => hclass ⟨b, hb, alike_iff.mp hlike⟩
      have hnone' : sorted.filter (f.alike a) = [] := by
        rw [List.filter_eq_nil_iff]
        exact fun b hb hlike => hclass ⟨b, hsubset b hb, alike_iff.mp hlike⟩
      rw [hnone, hnone']
      split <;> rfl

instance : Decidable (f.Sorts lines sorted) :=
  decidable_of_iff' _ sorts_iff

/-- Nothing is lost and nothing added if equal lines stay. -/
theorem Sorts.perm (h : f.Sorts lines sorted) (hunique : f.unique = false) : sorted.Perm lines := by
  rw [List.perm_iff_count]
  intro a
  have hcount (l : List String) : List.count a (l.filter (f.alike a)) = List.count a l :=
    List.count_filter (f.alike_self a)
  rw [← hcount sorted, ← hcount lines, h.classes a, if_neg (by simp [hunique])]

/-- If equal lines go, one of each class stays. -/
theorem Sorts.countP_alike (h : f.Sorts lines sorted) (hunique : f.unique = true) (hline : line ∈ lines) :
    sorted.countP (f.alike line) = 1 := by
  have hclass : line ∈ lines.filter (f.alike line) := List.mem_filter.mpr ⟨hline, f.alike_self line⟩
  rw [List.countP_eq_length_filter, h.classes line, if_pos hunique, List.length_take]
  have hpos := List.length_pos_of_mem hclass
  omega

theorem isLE_total (f : SortFlags) (a b : String) : ((f.order a b).isLE || (f.order b a).isLE) = true := by
  have hswap : f.order b a = (f.order a b).swap := Std.OrientedCmp.eq_swap
  rw [hswap]
  cases f.order a b <;> rfl

theorem ascending_mergeSort (f : SortFlags) (lines : List String) :
    (lines.mergeSort fun a b => f.order a b != .gt).Pairwise fun a b => (f.order a b).isLE := by
  simp only [isLE_eq]
  exact List.pairwise_mergeSort (fun _ _ _ => Std.TransCmp.isLE_trans) f.isLE_total lines

/-- Equal lines stay in the order in which they are. -/
theorem filter_mergeSort (f : SortFlags) (lines : List String) (a : String) :
    (lines.mergeSort fun a b => f.order a b != .gt).filter (f.alike a) = lines.filter (f.alike a) := by
  simp only [isLE_eq]
  have hclass : (lines.filter (f.alike a)).Pairwise fun b c => (f.order b c).isLE = true := by
    rw [List.pairwise_filter]
    refine List.pairwise_of_forall fun b c hb hc => ?_
    have heq : f.order b c = .eq :=
      Std.TransCmp.eq_trans (Std.OrientedCmp.eq_comm.mp (alike_iff.mp hb)) (alike_iff.mp hc)
    rw [heq]
    rfl
  have hsorted : (lines.filter (f.alike a)).Sublist (lines.mergeSort fun a b => (f.order a b).isLE) :=
    List.sublist_mergeSort (fun _ _ _ => Std.TransCmp.isLE_trans) f.isLE_total hclass List.filter_sublist
  have hkept := hsorted.filter (f.alike a)
  rw [List.filter_filter] at hkept
  simp only [Bool.and_self] at hkept
  symm
  apply hkept.eq_of_length
  rw [← List.countP_eq_length_filter, ← List.countP_eq_length_filter]
  exact ((List.mergeSort_perm lines _).countP_eq _).symm

theorem lt_of_isLE (h : (f.order a b).isLE) (hne : f.order b a ≠ .eq) : f.order a b = .lt := by
  cases hcompare : f.order a b with
  | lt => rfl
  | eq => exact absurd (Std.OrientedCmp.eq_comm.mp hcompare) hne
  | gt =>
    rw [hcompare] at h
    cases h

theorem sublist_dedupe (f : SortFlags) (lines : List String) : (f.dedupe lines).Sublist lines := by
  fun_induction dedupe f lines with
  | case1 => exact List.Sublist.refl _
  | case2 a => exact List.Sublist.refl _
  | case3 a b rest h ih => exact ih.trans (List.Sublist.cons_cons a (List.sublist_cons_self b rest))
  | case4 a b rest h ih => exact List.Sublist.cons_cons a ih

theorem filter_dedupe (h : sorted.Pairwise fun a b => (f.order a b).isLE) (a : String) :
    (f.dedupe sorted).filter (f.alike a) = (sorted.filter (f.alike a)).take 1 := by
  fun_induction dedupe f sorted with
  | case1 => rfl
  | case2 b =>
    simp only [List.filter_cons, List.filter_nil]
    split <;> rfl
  | case3 b c rest heq ih =>
    rw [ih (h.sublist (List.Sublist.cons_cons b (List.sublist_cons_self c rest)))]
    simp only [List.filter_cons, alike_congr heq a]
    split <;> rfl
  | case4 b c rest hne ih =>
    obtain ⟨hb, hrest⟩ := List.pairwise_cons.mp h
    rw [List.filter_cons, List.filter_cons, ih hrest]
    split
    · next hfirst =>
      have hlt : f.order b c = .lt := lt_of_isLE (hb c List.mem_cons_self) hne
      have hnone : (c :: rest).filter (f.alike a) = [] := by
        rw [List.filter_eq_nil_iff]
        intro d hd hlike
        have hbehind : f.order b d = .lt :=
          Std.TransCmp.lt_of_lt_of_isLE hlt (head_isLE (List.pairwise_cons.mp hrest).1 hd)
        have hequal : f.order b d = .eq :=
          Std.TransCmp.eq_trans (Std.OrientedCmp.eq_comm.mp (alike_iff.mp hfirst)) (alike_iff.mp hlike)
        rw [hbehind] at hequal
        cases hequal
      rw [hnone]
      rfl
    · rfl

/-- The lines in ascending order, before they are reversed. -/
def ascending (f : SortFlags) (lines : List String) : List String :=
  let sorted := lines.mergeSort fun a b => f.order a b != .gt
  if f.unique then f.dedupe sorted else sorted

theorem sort_eq (f : SortFlags) (lines : List String) :
    f.sort lines = if f.reverse then (f.ascending lines).reverse else f.ascending lines :=
  rfl

theorem sorts_ascending (f : SortFlags) (lines : List String) : f.Sorts lines (f.ascending lines) := by
  have hsorted := f.ascending_mergeSort lines
  unfold ascending
  dsimp only
  split
  · next hunique =>
    refine ⟨hsorted.sublist (f.sublist_dedupe _), fun a => ?_⟩
    rw [filter_dedupe hsorted, filter_mergeSort, if_pos hunique]
  · next hunique =>
    refine ⟨hsorted, fun a => ?_⟩
    rw [filter_mergeSort, if_neg hunique]

/-- The letters that are flags. -/
def letters : List Char :=
  ['r', 'n', 'i', 'u']

/-- The flags that a text sets. -/
def ofText (flags : String) : SortFlags :=
  ⟨flags.toList.contains 'r', flags.toList.contains 'n', flags.toList.contains 'i', flags.toList.contains 'u'⟩

theorem read_eq (f : SortFlags) (cs : List Char) : read f cs =
    match cs.find? fun c => !letters.contains c with
    | some c => .error (.sortFlag c)
    | none => .ok ⟨f.reverse || cs.contains 'r', f.numeric || cs.contains 'n', f.ignoreCase || cs.contains 'i',
        f.unique || cs.contains 'u'⟩ := by
  fun_induction read f cs with
  | case1 f => simp
  | case2 f cs ih | case3 f cs ih | case4 f cs ih | case5 f cs ih =>
    rw [ih, List.find?_cons_of_neg (by decide)]
    cases cs.find? fun c => !letters.contains c <;> simp
  | case6 f cs c hr hn hi hu =>
    have hc : letters.contains c = false := by
      simpa [letters] using ⟨hr, hn, hi, hu⟩
    rw [List.find?_cons_of_pos (by rw [hc]; rfl)]

theorem read_ofText {flags : String} (h : flags.toList.find? (fun c => !letters.contains c) = none) :
    read {} flags.toList = .ok (ofText flags) := by
  rw [read_eq, h]
  rfl

theorem read_of_unknown {flags : String} {c : Char}
    (h : flags.toList.find? (fun c => !letters.contains c) = some c) :
    read {} flags.toList = .error (.sortFlag c) := by
  rw [read_eq, h]

end SortFlags

namespace Call

/-- A call that sorts a buffer, with or without a text of flags. -/
def sort (name : String) (flags : Option String) : Call Run :=
  ⟨.bufferSort, .buffer name :: flags.toList.map fun t => .text (pure t)⟩

theorem text?_sort (name : String) (flags : Option String) : (sort name flags).text? 1 = pure flags := by
  cases flags with
  | none => exact text?_of_none rfl
  | some t => exact text?_of_text rfl

variable {flags : Option String} {f : SortFlags} {e : Failure}

theorem outcome_sort (hread : SortFlags.read {} (flags.getD "").toList = .ok f) (name : String) (s : RunState) :
    ∃ s', outcome (sort name flags).run s = (.ok (.count (f.sort (s.held name).lines).length), s') ∧
      s.Updates name ((s.held name).setLines (f.sort (s.held name).lines)) s' := by
  obtain ⟨s₁, hbuffer, hsame⟩ := Run.outcome_held name ((sort name flags).noted s)
  have hnoted : s.SameBuffers ((sort name flags).noted s) := ⟨fun _ => rfl, rfl⟩
  refine ⟨s₁.setBuffer name ((s.held name).setLines (f.sort (s.held name).lines)), ?_, ?_⟩
  · rw [outcome_run]
    change outcome (Call.bufferSort _) _ = _
    unfold Call.bufferSort Call.buffer
    have hname : (sort name flags).bufferName 0 = pure name := rfl
    rw [text?_sort, hname]
    simp only [pure_bind, bind_assoc, hread]
    rw [outcome_bind, hbuffer]
    rfl
  · exact (hnoted.trans hsame).updates (s₁.updates_setBuffer name _)

theorem outcome_sort_of_error (hread : SortFlags.read {} (flags.getD "").toList = .error e) (name : String)
    (s : RunState) :
    outcome (sort name flags).run s = (.error (.ofFailure e), (sort name flags).noted s) := by
  rw [outcome_run]
  change outcome (Call.bufferSort _) _ = _
  unfold Call.bufferSort
  rw [text?_sort]
  simp only [pure_bind, hread, outcome_throw]

end Call

/-- Sorting a buffer: with known flags its lines are left in order, reversed if that is asked for, and counted, and the
cursor and the mark are at its start; with an unknown flag it fails, and all buffers stay what they are. -/
theorem sort_puts_in_order (s : RunState) (name : String) (flags : Option String) :
    let f := SortFlags.ofText (flags.getD "")
    let unknown := (flags.getD "").toList.find? fun c => !SortFlags.letters.contains c
    let old := (s.held name).lines
    Std.TransCmp f.order ∧
      (∀ a b, f.order a b = (f.byNumber a b).then (compare (f.text a) (f.text b))) ∧
      (unknown = none → ∃ s' sorted lines, outcome (Call.sort name flags).run s = (.ok (.count lines.length), s') ∧
        s.Updates name { s.held name with lines, cursor := ⟨0, 0⟩, mark := ⟨0, 0⟩, changed := true } s' ∧
        lines = (if f.reverse then sorted.reverse else sorted) ∧
        f.Sorts old sorted ∧ (∀ other, f.Sorts old other → other = sorted) ∧
        (f.unique = false → lines.Perm old) ∧
        (f.unique = true → lines ⊆ old ∧ ∀ line ∈ old, lines.countP (f.alike line) = 1)) ∧
      ∀ c, unknown = some c → ∃ s', outcome (Call.sort name flags).run s = (.error (.ofFailure (.sortFlag c)), s') ∧
        s.SameBuffers s' := by
  intro f unknown old
  refine ⟨inferInstance, f.order_eq, ?_, ?_⟩
  · intro hknown
    obtain ⟨s', hsort, hupdates⟩ := Call.outcome_sort (SortFlags.read_ofText hknown) name s
    have hsorts := f.sorts_ascending old
    have hlines := f.sort_eq old
    refine ⟨s', f.ascending old, f.sort old, hsort, hupdates, hlines, hsorts, ?_, ?_, ?_⟩
    · intro other hother
      exact hother.unique hsorts
    · intro hunique
      rw [hlines]
      split
      · exact (List.reverse_perm _).trans (hsorts.perm hunique)
      · exact hsorts.perm hunique
    · intro hunique
      rw [hlines]
      split
      · refine ⟨fun line hline => hsorts.subset (List.mem_reverse.mp hline), fun line hline => ?_⟩
        rw [List.countP_reverse, hsorts.countP_alike hunique hline]
      · exact ⟨hsorts.subset, fun line hline => hsorts.countP_alike hunique hline⟩
  · intro c hc
    exact ⟨_, Call.outcome_sort_of_error (SortFlags.read_of_unknown hc) name s, fun _ => rfl, rfl⟩

/-- The zeros are behind `-1` and differ by their texts, and of the twos that differ by case only the first stays. -/
theorem sort_puts_in_order_numbers :
    let s : RunState := ⟨{ script := { name := "s", lines := [] }, program := {} }, {}⟩
    let old := ["2 B", "x", "02 b", "-1", "2 b", "-0", "X"]
    let s₁ := s.setBuffer "b" (.ofLines old)
    ∃ s', outcome (Call.sort "b" (some "nurin")).run s₁ = (.ok (.count 5), s') ∧
      s'.held "b" = { lines := ["2 B", "02 b", "x", "-0", "-1"], changed := true } ∧
      ∃ s'', outcome (Call.sort "b" (some "nzx")).run s' = (.error (.ofFailure (.sortFlag 'z')), s'') ∧
        s'.SameBuffers s'' := by
  intro s old s₁
  have hheld : s₁.held "b" = .ofLines old := (s.updates_setBuffer "b" _).held
  obtain ⟨-, -, hsort, -⟩ := sort_puts_in_order s₁ "b" (some "nurin")
  rw [hheld] at hsort
  obtain ⟨s', sorted, lines, hrun, hupdates, hlines, -, hunique, -, -⟩ := hsort (by decide)
  have hsorted : ["-1", "-0", "x", "02 b", "2 B"] = sorted := hunique _ (by decide +kernel)
  have hreversed : lines = ["2 B", "02 b", "x", "-0", "-1"] := by
    rw [hlines, ← hsorted]
    decide
  rw [hreversed] at hrun hupdates
  obtain ⟨-, -, -, hunknown⟩ := sort_puts_in_order s' "b" (some "nzx")
  exact ⟨s', hrun, hupdates.held, hunknown 'z' (by decide)⟩

end LineScript
