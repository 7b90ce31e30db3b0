import LineScript.Token.Escape
import Mathlib.Data.List.Basic
import Mathlib.Tactic.Common

/-! The grammar of quoted strings. Reading a string succeeds exactly on what the grammar has, with the characters that
its items stand for. -/
namespace LineScript.Token

open Regex (hexValue? isHex scalar?)

/-- The value of a hexadecimal digit. -/
def digitValue (c : Char) : Nat :=
  if c.isDigit then c.toNat - '0'.toNat
  else if 'a' ≤ c then c.toNat - 'a'.toNat + 10
  else c.toNat - 'A'.toNat + 10

/-- The number that hexadecimal digits stand for. -/
def numeral (ds : List Char) : Nat :=
  ds.foldl (fun n d => 16 * n + digitValue d) 0

/-- The letters that are an escape on their own, with what they stand for. -/
def letters : List (Char × Char) :=
  [('\\', '\\'), ('"', '"'), ('\'', '\''), ('$', '$'), ('n', '\n'), ('r', '\r'), ('t', '\t'), ('0', Char.ofNat 0)]

/-- The letters that have a numeral behind them, with the number of its characters. -/
def widths : List (Char × Nat) :=
  [('x', 2), ('u', 4)]

/-- Whether some characters are a hexadecimal numeral for a number. Where signs are allowed, a plus sign may stand in
place of the first digit. -/
inductive Numeral (signed : Bool) : List Char → Nat → Prop
  | digits {ds : List Char} : ds ≠ [] → (∀ d ∈ ds, isHex d = true) → Numeral signed ds (numeral ds)
  | plus {ds : List Char} : signed = true → ds ≠ [] → (∀ d ∈ ds, isHex d = true) →
      Numeral signed ('+' :: ds) (numeral ds)

/-- What may stand behind a backslash, with the character that the escape stands for: a letter, or a numeral of a fixed
width behind another letter. -/
inductive Escaped (signed : Bool) : List Char → Char → Prop
  | letter {l c : Char} : (l, c) ∈ letters → Escaped signed [l] c
  | numeral {l c : Char} {ds : List Char} : (l, ds.length) ∈ widths → Numeral signed ds c.toNat →
      Escaped signed (l :: ds) c

/-- An item of a quoted string, with the character that it stands for. -/
inductive Item (quote : Char) (signed : Bool) : List Char → Char → Prop
  | plain {c : Char} : c ≠ quote → c ≠ '\\' → Item quote signed [c] c
  | escaped {cs : List Char} {c : Char} : Escaped signed cs c → Item quote signed ('\\' :: cs) c

/-- What may stand between quotes: items one behind the other, with the characters that they stand for. -/
inductive Items (quote : Char) (signed : Bool) : List Char → List Char → Prop
  | nil : Items quote signed [] []
  | cons {cs ds value : List Char} {c : Char} : Item quote signed cs c → Items quote signed ds value →
      Items quote signed (cs ++ ds) (c :: value)

theorem hexValue?_eq_some_iff {ds : List Char} {n : Nat} :
    hexValue? ds = some n ↔ (∀ d ∈ ds, isHex d = true) ∧ n = numeral ds := by
  have hfold (m : Nat) : ds.foldlM (fun n c =>
      if c.isDigit then some (16 * n + (c.toNat - '0'.toNat))
      else if 'a' ≤ c && c ≤ 'f' then some (16 * n + (c.toNat - 'a'.toNat + 10))
      else if 'A' ≤ c && c ≤ 'F' then some (16 * n + (c.toNat - 'A'.toNat + 10))
      else none) m = some n ↔
      (∀ d ∈ ds, isHex d = true) ∧ n = ds.foldl (fun n d => 16 * n + digitValue d) m := by
    induction ds generalizing m with
    | nil =>
      rw [List.foldlM_nil, List.foldl_nil, and_iff_right fun _ hd => nomatch hd]
      exact ⟨fun h => (Option.some.inj h).symm, fun h => congrArg some h.symm⟩
    | cons d ds ih =>
      have hdigit : (if d.isDigit then some (16 * m + (d.toNat - '0'.toNat))
          else if 'a' ≤ d && d ≤ 'f' then some (16 * m + (d.toNat - 'a'.toNat + 10))
          else if 'A' ≤ d && d ≤ 'F' then some (16 * m + (d.toNat - 'A'.toNat + 10))
          else none) = if isHex d then some (16 * m + digitValue d) else none := by
        unfold isHex digitValue
        cases hd : d.isDigit with
        | true => rfl
        | false =>
          by_cases hlower : 'a' ≤ d
          · by_cases hf : d ≤ 'f'
            · simp only [hlower, hf, decide_true, Bool.and_self, Bool.true_or, Bool.or_true, if_true, if_false,
                Bool.false_eq_true]
            · have hupper : ¬d ≤ 'F' := fun hF => hf (Char.le_trans hF (by decide))
              simp only [hlower, hf, hupper, decide_false, Bool.and_false, Bool.or_false, Bool.false_eq_true, if_false]
          · simp only [hlower, decide_false, Bool.false_and, Bool.false_or, Bool.or_false, Bool.false_eq_true, if_false]
      rw [List.foldlM_cons, hdigit, List.foldl_cons, List.forall_mem_cons]
      by_cases h : isHex d = true
      · rw [if_pos h]
        exact (ih _).trans (by rw [and_iff_right h])
      · rw [if_neg h]
        constructor
        · intro hnone
          cases hnone
        · rintro ⟨⟨hd, -⟩, -⟩
          exact absurd hd h
  exact hfold 0

theorem scalar?_eq_some_iff {n : Nat} {c : Char} : scalar? n = some c ↔ c.toNat = n := by
  unfold scalar?
  constructor
  · intro h
    split at h
    · rename_i hn
      cases h
      have hvalid : n.isValidChar := by
        unfold Nat.isValidChar
        omega
      have hofNat : Char.ofNat n = Char.ofNatAux n hvalid := dif_pos hvalid
      rw [hofNat]
      rfl
    · cases h
  · rintro rfl
    have hvalid : c.toNat.isValidChar := c.valid
    have hn : c.toNat < 0xD800 ∨ (0xE000 ≤ c.toNat ∧ c.toNat < 0x110000) := by
      unfold Nat.isValidChar at hvalid
      omega
    rw [if_pos hn, Char.ofNat_toNat]

theorem isHex_plus : isHex '+' = false := by
  decide

/-- Numerals are read with signs. -/
theorem hexNumeral?_eq_some_iff {ds : List Char} {n : Nat} : hexNumeral? ds = some n ↔ Numeral true ds n := by
  constructor
  · intro h
    unfold hexNumeral? at h
    split at h
    · obtain ⟨hhex, rfl⟩ := hexValue?_eq_some_iff.mp h
      exact .plus rfl (List.cons_ne_nil _ _) hhex
    · split at h
      · cases h
      · rename_i hempty
        obtain ⟨hhex, rfl⟩ := hexValue?_eq_some_iff.mp h
        exact .digits (fun hnil => hempty (by rw [hnil]; rfl)) hhex
  · intro h
    cases h with
    | plus _ hne hhex =>
      obtain ⟨d, ds, rfl⟩ := List.exists_cons_of_ne_nil hne
      exact hexValue?_eq_some_iff.mpr ⟨hhex, rfl⟩
    | digits hne hhex =>
      obtain ⟨d, ds, rfl⟩ := List.exists_cons_of_ne_nil hne
      have hplus : d ≠ '+' := by
        rintro rfl
        have := hhex _ List.mem_cons_self
        rw [isHex_plus] at this
        cases this
      have hread : hexNumeral? (d :: ds) = hexValue? (d :: ds) := by
        unfold hexNumeral?
        split
        · rename_i heq
          cases heq
          exact absurd rfl hplus
        · rfl
      rw [hread]
      exact hexValue?_eq_some_iff.mpr ⟨hhex, rfl⟩

theorem hexEscape_eq_ok_iff {width : Nat} {cs rest : List Char} {c : Char} :
    hexEscape width cs = .ok (c, rest) ↔ ∃ ds, cs = ds ++ rest ∧ ds.length = width ∧ Numeral true ds c.toNat := by
  unfold hexEscape
  constructor
  · intro h
    split_ifs at h with hlength
    split at h
    · rename_i d hd
      cases h
      obtain ⟨n, hn, hscalar⟩ := Option.bind_eq_some_iff.mp hd
      refine ⟨cs.take width, (List.take_append_drop width cs).symm, ?_, ?_⟩
      · rw [List.length_take]
        omega
      · rw [scalar?_eq_some_iff.mp hscalar]
        exact hexNumeral?_eq_some_iff.mp hn
    · cases h
  · rintro ⟨ds, rfl, rfl, hds⟩
    have hlength : ¬(ds ++ rest).length < ds.length := by simp
    have hread : (hexNumeral? ds).bind scalar? = some c :=
      Option.bind_eq_some_iff.mpr ⟨_, hexNumeral?_eq_some_iff.mpr hds, scalar?_eq_some_iff.mpr rfl⟩
    rw [if_neg hlength, List.take_left, List.drop_left, hread]

/-- An escape is read exactly if the grammar has it. -/
theorem escape_eq_ok_iff {cs rest : List Char} {c : Char} :
    escape cs = .ok (c, rest) ↔ ∃ text, cs = text ++ rest ∧ Escaped true text c := by
  constructor
  · intro h
    unfold escape at h
    split at h
    · cases h
    · rename_i l cs
      have hletter {d : Char} (hmem : (l, d) ∈ letters)
          (h : (.ok (d, cs) : Except EscapeError (Char × List Char)) = .ok (c, rest)) :
          ∃ text, l :: cs = text ++ rest ∧ Escaped true text c := by
        cases h
        exact ⟨[l], rfl, .letter hmem⟩
      split at h
      case h_9 =>
        obtain ⟨ds, rfl, hlength, hds⟩ := hexEscape_eq_ok_iff.mp h
        exact ⟨'x' :: ds, rfl, .numeral (by rw [hlength]; decide) hds⟩
      case h_10 =>
        obtain ⟨ds, rfl, hlength, hds⟩ := hexEscape_eq_ok_iff.mp h
        exact ⟨'u' :: ds, rfl, .numeral (by rw [hlength]; decide) hds⟩
      case h_11 => cases h
      all_goals exact hletter (by decide) h
  · rintro ⟨text, rfl, htext⟩
    cases htext with
    | letter hmem =>
      simp only [letters, List.mem_cons, Prod.mk.injEq, List.not_mem_nil, or_false] at hmem
      rcases hmem with h | h | h | h | h | h | h | h
      all_goals
        obtain ⟨rfl, rfl⟩ := h
        rfl
    | numeral hmem hds =>
      simp only [widths, List.mem_cons, Prod.mk.injEq, List.not_mem_nil, or_false] at hmem
      obtain ⟨rfl, hlength⟩ | ⟨rfl, hlength⟩ := hmem
      all_goals exact hexEscape_eq_ok_iff.mpr ⟨_, rfl, hlength, hds⟩

variable {quote : Char} {signed : Bool} {fuel : Nat} {cs rest value : List Char}

/-- What has been read is a string of the grammar and its closing quote. -/
theorem items_of_quoted (h : quoted quote fuel cs = .ok (value, rest)) :
    ∃ items, cs = items ++ quote :: rest ∧ Items quote true items value := by
  induction fuel generalizing cs value with
  | zero => cases h
  | succ fuel ih =>
    cases cs with
    | nil => cases h
    | cons c cs =>
      unfold quoted at h
      split_ifs at h with hquote hescape
      · cases h
        exact ⟨[], by rw [hquote]; rfl, .nil⟩
      · subst hescape
        split at h
        · cases h
        · rename_i d behind hread
          obtain ⟨text, rfl, htext⟩ := escape_eq_ok_iff.mp hread
          cases hvalue : quoted quote fuel behind with
          | error e =>
            rw [hvalue] at h
            cases h
          | ok r =>
            rw [hvalue] at h
            cases h
            obtain ⟨items, rfl, hitems⟩ := ih hvalue
            exact ⟨'\\' :: text ++ items, by simp, .cons (.escaped htext) hitems⟩
      · cases hvalue : quoted quote fuel cs with
        | error e =>
          rw [hvalue] at h
          cases h
        | ok r =>
          rw [hvalue] at h
          cases h
          obtain ⟨items, rfl, hitems⟩ := ih hvalue
          exact ⟨c :: items, rfl, .cons (.plain hquote hescape) hitems⟩

/-- A string of the grammar is read up to its closing quote. -/
theorem Items.quoted {items : List Char} (h : Items quote true items value) (hquote : quote ≠ '\\')
    (hfuel : items.length < fuel) (rest : List Char) :
    Token.quoted quote fuel (items ++ quote :: rest) = .ok (value, rest) := by
  induction h generalizing fuel with
  | nil =>
    obtain ⟨fuel, rfl⟩ := Nat.exists_eq_add_one_of_ne_zero (Nat.ne_of_gt hfuel)
    simp [Token.quoted]
  | @cons cs ds value c hitem _ ih =>
    obtain ⟨fuel, rfl⟩ := Nat.exists_eq_add_one_of_ne_zero (Nat.ne_of_gt (Nat.zero_lt_of_lt hfuel))
    rw [List.length_append] at hfuel
    cases hitem with
    | plain hne hescape =>
      rw [List.length_singleton] at hfuel
      have htail : Token.quoted quote fuel (ds ++ quote :: rest) = .ok (_, rest) := ih (by omega)
      simp [Token.quoted, hne, hescape, htail, Except.map]
    | @escaped text _ htext =>
      rw [List.length_cons] at hfuel
      have hread : escape (text ++ (ds ++ quote :: rest)) = .ok (c, ds ++ quote :: rest) :=
        escape_eq_ok_iff.mpr ⟨text, rfl, htext⟩
      have htail : Token.quoted quote fuel (ds ++ quote :: rest) = .ok (_, rest) := ih (by omega)
      simp [Token.quoted, hquote.symm, hread, htail, Except.map]

/-- A string is read exactly if the grammar has it. -/
theorem quoted_eq_ok_iff (hquote : quote ≠ '\\') :
    quoted quote (cs.length + 1) cs = .ok (value, rest) ↔
      ∃ items, cs = items ++ quote :: rest ∧ Items quote true items value := by
  constructor
  · exact items_of_quoted
  · rintro ⟨items, rfl, hitems⟩
    have hlength : items.length < (items ++ quote :: rest).length + 1 := by
      rw [List.length_append]
      omega
    exact hitems.quoted hquote hlength rest

theorem Numeral.mono {ds : List Char} {n : Nat} (h : Numeral false ds n) : Numeral true ds n := by
  cases h with
  | digits hne hhex => exact .digits hne hhex
  | plus hsigned => cases hsigned

theorem Numeral.ne_nil {signed : Bool} {ds : List Char} {n : Nat} (h : Numeral signed ds n) : ds ≠ [] := by
  cases h with
  | digits hne => exact hne
  | plus => exact List.cons_ne_nil _ _

/-- No letter that is an escape on its own has a numeral behind it. -/
theorem disjoint_letters {l c : Char} {width : Nat} (hc : (l, c) ∈ letters) : (l, width) ∉ widths := by
  simp only [widths, List.mem_cons, Prod.mk.injEq, List.not_mem_nil, or_false]
  rintro (⟨rfl, -⟩ | ⟨rfl, -⟩) <;> simp [letters] at hc

theorem Escaped.mono {cs : List Char} {c : Char} (h : Escaped false cs c) : Escaped true cs c := by
  cases h with
  | letter hmem => exact .letter hmem
  | numeral hmem hds => exact .numeral hmem hds.mono

theorem Item.mono {quote c : Char} {cs : List Char} (h : Item quote false cs c) : Item quote true cs c := by
  cases h with
  | plain hne hescape => exact .plain hne hescape
  | escaped htext => exact .escaped htext.mono

theorem Items.mono {quote : Char} {items value : List Char} (h : Items quote false items value) :
    Items quote true items value := by
  induction h with
  | nil => exact .nil
  | cons hitem _ ih => exact .cons hitem.mono ih

/-- What an item starts with tells where it ends. -/
theorem Item.unique {quote c d : Char} {cs ds r s : List Char} (hc : Item quote true cs c) (hd : Item quote true ds d)
    (h : cs ++ r = ds ++ s) : cs = ds ∧ r = s := by
  have hlast {cs ds : List Char} (h : cs ++ r = ds ++ s) (hrs : r = s) : cs = ds ∧ r = s :=
    ⟨List.append_cancel_right (hrs ▸ h), hrs⟩
  cases hc with
  | plain _ hescape =>
    cases hd with
    | plain => exact hlast h (List.cons.inj h).2
    | escaped => exact absurd (List.cons.inj h).1 hescape
  | @escaped cs _ hcs =>
    cases hd with
    | plain _ hescape => exact absurd (List.cons.inj h).1.symm hescape
    | @escaped ds _ hds =>
      have htail : cs ++ r = ds ++ s := (List.cons.inj h).2
      have hr : escape (cs ++ r) = .ok (c, r) := escape_eq_ok_iff.mpr ⟨cs, rfl, hcs⟩
      have hs : escape (cs ++ r) = .ok (d, s) := escape_eq_ok_iff.mpr ⟨ds, htail, hds⟩
      rw [hr] at hs
      exact hlast h (Prod.mk.inj (Except.ok.inj hs)).2

/-- Whether one of some items is a numeral with a sign. -/
def Signed (quote : Char) (items : List Char) : Prop :=
  ∃ front value l width behind, items = front ++ '\\' :: l :: '+' :: behind ∧ Items quote true front value ∧
    (l, width) ∈ widths

theorem Signed.append {quote c : Char} {cs items : List Char} (hitem : Item quote true cs c)
    (h : Signed quote items) : Signed quote (cs ++ items) := by
  obtain ⟨front, value, l, width, behind, rfl, hfront, hl⟩ := h
  exact ⟨cs ++ front, c :: value, l, width, behind, by simp, .cons hitem hfront, hl⟩

/-- A numeral that does not start with a sign has none. -/
theorem Numeral.unsigned {ds : List Char} {n : Nat} (h : Numeral true ds n) (hplus : ds.head? ≠ some '+') :
    Numeral false ds n := by
  cases h with
  | digits hne hhex => exact .digits hne hhex
  | plus => exact absurd rfl hplus

theorem Numeral.head?_ne {ds : List Char} {n : Nat} (h : Numeral false ds n) : ds.head? ≠ some '+' := by
  cases h with
  | digits _ hhex =>
    intro hhead
    have := hhex _ (List.mem_of_mem_head? hhead)
    rw [isHex_plus] at this
    cases this
  | plus hsigned => cases hsigned

/-- An item is one without signs, or starts like a numeral with a sign. -/
theorem Item.unsigned_or {quote c : Char} {cs : List Char} (h : Item quote true cs c) :
    Item quote false cs c ∨ ∃ l width behind, cs = '\\' :: l :: '+' :: behind ∧ (l, width) ∈ widths := by
  cases h with
  | plain hne hescape => exact .inl (.plain hne hescape)
  | escaped htext =>
    cases htext with
    | letter hmem => exact .inl (.escaped (.letter hmem))
    | @numeral l _ ds hl hds =>
      by_cases hhead : ds.head? = some '+'
      · obtain ⟨behind, rfl⟩ := List.head?_eq_some_iff.mp hhead
        exact .inr ⟨l, _, behind, rfl, hl⟩
      · exact .inl (.escaped (.numeral hl (hds.unsigned hhead)))

/-- An item without signs does not start like a numeral with one. -/
theorem Item.not_signed {quote c l : Char} {width : Nat} {cs r behind : List Char} (h : Item quote false cs c)
    (hl : (l, width) ∈ widths) : cs ++ r ≠ '\\' :: l :: '+' :: behind := by
  intro hcs
  cases h with
  | plain _ hescape => exact hescape (List.cons.inj hcs).1
  | escaped htext =>
    have htail := (List.cons.inj hcs).2
    cases htext with
    | letter hmem =>
      obtain rfl := (List.cons.inj htail).1
      exact (disjoint_letters hmem) hl
    | @numeral _ _ ds _ hds =>
      obtain ⟨d, ds, rfl⟩ := List.exists_cons_of_ne_nil hds.ne_nil
      exact hds.head?_ne (congrArg some (List.cons.inj (List.cons.inj htail).2).1)

/-- The items without signs are those none of which is a numeral with a sign. -/
theorem items_unsigned_iff {quote : Char} {items value : List Char} :
    Items quote false items value ↔ Items quote true items value ∧ ¬Signed quote items := by
  constructor
  · refine fun h => ⟨h.mono, ?_⟩
    rintro ⟨front, value', l, width, behind, hitems, hfront, hl⟩
    induction hfront generalizing items value with
    | nil =>
      cases h with
      | nil => cases hitems
      | cons hitem _ => exact hitem.not_signed hl hitems
    | cons hitem' _ ih =>
      rw [List.append_assoc] at hitems
      cases h with
      | nil => exact absurd (List.append_eq_nil_iff.mp hitems.symm).2 (by simp)
      | cons hitem htail => exact ih htail (hitem.mono.unique hitem' hitems).2
  · rintro ⟨h, hsigned⟩
    induction h with
    | nil => exact .nil
    | @cons cs ds value c hitem htail ih =>
      have hds : ¬Signed quote ds := fun h => hsigned (h.append hitem)
      rcases hitem.unsigned_or with hitem | ⟨l, width, behind, rfl, hl⟩
      · exact .cons hitem (ih hds)
      · exact absurd ⟨[], [], l, width, behind ++ ds, rfl, .nil, hl⟩ hsigned

end LineScript.Token
