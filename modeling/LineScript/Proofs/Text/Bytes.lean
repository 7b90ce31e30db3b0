import LineScript.Text.Bytes

/-! Cuts of a text: a boundary is the size of some leading characters, and a cut there gives them back. Boundaries
part a text, and the parts are found again by their ends. -/
namespace LineScript.Text

@[simp] theorem size_nil : size [] = 0 :=
  rfl

@[simp] theorem size_cons (c : Char) (cs : List Char) : size (c :: cs) = c.utf8Size + size cs :=
  rfl

@[simp] theorem take_zero (cs : List Char) : take cs 0 = [] := by
  cases cs with
  | nil => rfl
  | cons c cs => simp [take, Nat.ne_of_gt c.utf8Size_pos]

@[simp] theorem drop_zero (cs : List Char) : drop cs 0 = cs := by
  cases cs with
  | nil => rfl
  | cons c cs => simp [drop, Nat.ne_of_gt c.utf8Size_pos]

theorem take_size_add (as bs : List Char) (n : Nat) : take (as ++ bs) (size as + n) = as ++ take bs n := by
  induction as with
  | nil => simp
  | cons a as ih =>
    have h : a.utf8Size ≤ a.utf8Size + size as + n := by omega
    have hn : a.utf8Size + size as + n - a.utf8Size = size as + n := by omega
    simp only [List.cons_append, size_cons, take, h, if_true, hn, ih]

theorem drop_size_add (as bs : List Char) (n : Nat) : drop (as ++ bs) (size as + n) = drop bs n := by
  induction as with
  | nil => simp
  | cons a as ih =>
    have h : a.utf8Size ≤ a.utf8Size + size as + n := by omega
    have hn : a.utf8Size + size as + n - a.utf8Size = size as + n := by omega
    simp only [List.cons_append, size_cons, drop, h, if_true, hn, ih]

@[simp] theorem take_size (as bs : List Char) : take (as ++ bs) (size as) = as := by
  simpa using take_size_add as bs 0

@[simp] theorem drop_size (as bs : List Char) : drop (as ++ bs) (size as) = bs := by
  simpa using drop_size_add as bs 0

theorem take_of_size_le {cs : List Char} {n : Nat} (h : size cs ≤ n) : take cs n = cs := by
  obtain ⟨k, rfl⟩ := Nat.exists_eq_add_of_le h
  simpa [take] using take_size_add cs [] k

theorem drop_of_size_le {cs : List Char} {n : Nat} (h : size cs ≤ n) : drop cs n = [] := by
  obtain ⟨k, rfl⟩ := Nat.exists_eq_add_of_le h
  simpa [drop] using drop_size_add cs [] k

theorem isBoundary_size (as bs : List Char) : IsBoundary (as ++ bs) (size as) := by
  unfold IsBoundary floor
  rw [take_size]

theorem isBoundary_size_self (cs : List Char) : IsBoundary cs (size cs) := by
  have h := isBoundary_size cs []
  rwa [List.append_nil] at h

theorem isBoundary_zero (cs : List Char) : IsBoundary cs 0 := by
  simp [IsBoundary, floor]

theorem isBoundary_floor (cs : List Char) (n : Nat) : IsBoundary cs (floor cs n) := by
  have h := isBoundary_size (take cs n) (drop cs n)
  rwa [take_append_drop] at h

theorem IsBoundary.size_take {cs : List Char} {n : Nat} (h : IsBoundary cs n) : size (take cs n) = n :=
  h

theorem IsBoundary.le_size {cs : List Char} {n : Nat} (h : IsBoundary cs n) : n ≤ size cs := by
  have hs := congrArg size (take_append_drop cs n)
  rw [size_append, h.size_take] at hs
  omega

/-- Behind a boundary that is not the end of the text there is a character. -/
theorem IsBoundary.exists_drop {cs : List Char} {n : Nat} (h : IsBoundary cs n) (hn : n < size cs) :
    ∃ c rest, drop cs n = c :: rest := by
  cases hd : drop cs n with
  | nil =>
    have hs := congrArg size (take_append_drop cs n)
    rw [hd, List.append_nil, h.size_take] at hs
    omega
  | cons c rest => exact ⟨c, rest, rfl⟩

/-- A character is dropped if it does not fit. -/
theorem lt_of_drop {cs rest : List Char} {n : Nat} {c : Char} (h : drop cs n = c :: rest) :
    n < size (take cs n) + c.utf8Size := by
  induction cs generalizing n with
  | nil => exact absurd h (by simp [drop])
  | cons d cs ih =>
    by_cases hd : d.utf8Size ≤ n
    · simp only [drop, take, hd, if_true, size_cons] at h ⊢
      have := ih h
      omega
    · simp only [drop, take, hd, if_false, List.cons.injEq, size_nil] at h ⊢
      rw [← h.1]
      omega

theorem next_of_drop {cs rest : List Char} {n : Nat} {c : Char} (h : drop cs n = c :: rest) :
    next cs n = n + c.utf8Size := by
  simp [next, h]

theorem IsBoundary.le_next {cs : List Char} {n : Nat} (hb : IsBoundary cs n) : n ≤ next cs n := by
  cases h : drop cs n with
  | nil => simpa [next, h] using hb.le_size
  | cons c rest =>
    rw [next_of_drop h]
    exact Nat.le_add_right _ _

section
variable {cs rest : List Char} {n : Nat} {c : Char} (hb : IsBoundary cs n) (h : drop cs n = c :: rest)
include hb h

/-- Cutting behind the character at a boundary moves it to the first part. -/
theorem eq_append_of_drop : cs = take cs n ++ [c] ++ rest ∧ next cs n = size (take cs n ++ [c]) := by
  constructor
  · rw [List.append_assoc, List.singleton_append, ← h, take_append_drop]
  · rw [next_of_drop h, size_append, hb.size_take, size_cons, size_nil, Nat.add_zero]

theorem take_next : take cs (next cs n) = take cs n ++ [c] := by
  obtain ⟨hcs, hnext⟩ := eq_append_of_drop hb h
  have ht := take_size (take cs n ++ [c]) rest
  rwa [← hcs, ← hnext] at ht

theorem drop_next : drop cs (next cs n) = rest := by
  obtain ⟨hcs, hnext⟩ := eq_append_of_drop hb h
  have hd := drop_size (take cs n ++ [c]) rest
  rwa [← hcs, ← hnext] at hd

end

theorem isBoundary_next {cs : List Char} {n : Nat} (hb : IsBoundary cs n) :
    IsBoundary cs (next cs n) := by
  cases h : drop cs n with
  | nil =>
    have he := isBoundary_size_self cs
    simpa [next, h] using he
  | cons c rest =>
    unfold IsBoundary floor
    rw [take_next hb h, (eq_append_of_drop hb h).2]

theorem take_take (cs : List Char) {m n : Nat} (h : m ≤ n) : take (take cs n) m = take cs m := by
  induction cs generalizing m n with
  | nil => rfl
  | cons c cs ih =>
    by_cases hm : c.utf8Size ≤ m
    · have hn : c.utf8Size ≤ n := by omega
      simp only [take, hm, hn, if_true]
      rw [ih (by omega)]
    · by_cases hn : c.utf8Size ≤ n <;> simp [take, hm, hn]

theorem take_append_of_le {as : List Char} {n : Nat} (h : n ≤ size as) (bs : List Char) :
    take (as ++ bs) n = take as n := by
  rw [← take_take (as ++ bs) h, take_size]

theorem isBoundary_append_of_le {as : List Char} {n : Nat} (h : n ≤ size as) (bs : List Char) :
    IsBoundary (as ++ bs) n ↔ IsBoundary as n := by
  unfold IsBoundary floor
  rw [take_append_of_le h]

theorem isBoundary_append_add (as bs : List Char) (n : Nat) :
    IsBoundary (as ++ bs) (size as + n) ↔ IsBoundary bs n := by
  unfold IsBoundary floor
  rw [take_size_add, size_append]
  omega

theorem take_append_slice (cs : List Char) {m n : Nat} (h : m ≤ n) :
    take cs m ++ slice cs m n = take cs n := by
  rw [← take_take cs h]
  exact take_append_drop (take cs n) m

/-- What stands between two cuts, the earlier first. -/
theorem slice_size (as bs cs : List Char) : slice (as ++ bs ++ cs) (size as) (size (as ++ bs)) = bs := by
  unfold slice
  rw [take_size, drop_size]

theorem size_slice {cs : List Char} {m n : Nat} (hm : IsBoundary cs m) (hn : IsBoundary cs n)
    (h : m ≤ n) : m + size (slice cs m n) = n := by
  have hpart := congrArg size (take_append_slice cs h)
  rwa [size_append, hm.size_take, hn.size_take] at hpart

theorem drop_append_of_le {as : List Char} {n : Nat} (h : n ≤ size as) (bs : List Char) :
    drop (as ++ bs) n = drop as n ++ bs := by
  have hparts : take (as ++ bs) n ++ drop (as ++ bs) n = take as n ++ (drop as n ++ bs) := by
    rw [take_append_drop, ← List.append_assoc, take_append_drop]
  rw [take_append_of_le h] at hparts
  exact List.append_cancel_left hparts

/-- Parts of a text that follow one another make up one part. -/
theorem slice_append_slice {cs : List Char} {l m n : Nat} (hm : IsBoundary cs m) (hl : l ≤ m)
    (hn : m ≤ n) : slice cs l m ++ slice cs m n = slice cs l n := by
  have hsize : l ≤ size (take cs m) := by rwa [hm.size_take]
  calc slice cs l m ++ slice cs m n
      = drop (take cs m ++ slice cs m n) l := (drop_append_of_le hsize _).symm
    _ = slice cs l n := by rw [take_append_slice cs hn, slice]

theorem slice_append_drop {cs : List Char} {m n : Nat} (hn : IsBoundary cs n) (h : m ≤ n) :
    slice cs m n ++ drop cs n = drop cs m := by
  have hsize : m ≤ size (take cs n) := by rwa [hn.size_take]
  calc slice cs m n ++ drop cs n
      = drop (take cs n ++ drop cs n) m := (drop_append_of_le hsize _).symm
    _ = drop cs m := by rw [take_append_drop]

theorem length_eq_size (s : String) : length s = size s.toList := by
  suffices h : ∀ cs : List Char, length (String.ofList cs) = size cs by
    simpa using h s.toList
  intro cs
  induction cs with
  | nil => rfl
  | cons c cs ih =>
    have hs : String.ofList (c :: cs) = String.singleton c ++ String.ofList cs := by
      rw [String.singleton_eq_ofList, ← String.ofList_append]
      rfl
    rw [hs, size_cons, ← ih]
    unfold length
    rw [String.utf8ByteSize_append, String.utf8ByteSize_singleton]

theorem length_append (s t : String) : length (s ++ t) = length s + length t :=
  String.utf8ByteSize_append

@[simp] theorem toList_before (s : String) (n : Nat) : (before s n).toList = take s.toList n :=
  String.toList_ofList

@[simp] theorem toList_after (s : String) (n : Nat) : (after s n).toList = drop s.toList n :=
  String.toList_ofList

@[simp] theorem toList_between (s : String) (m n : Nat) :
    (between s m n).toList = slice s.toList m n :=
  String.toList_ofList

section Parts

variable {s : String} {m n : Nat}

theorem length_eq_zero_iff : length s = 0 ↔ s = "" := by
  unfold length
  exact String.utf8ByteSize_eq_zero_iff

theorem IsBoundary.le_length (h : IsBoundary s.toList n) : n ≤ length s := by
  rw [length_eq_size]
  exact h.le_size

/-- A boundary parts a text in two. -/
theorem exists_parts (h : IsBoundary s.toList n) : ∃ head tail, s = head ++ tail ∧ n = length head := by
  refine ⟨before s n, after s n, ?_, ?_⟩
  · apply String.toList_injective
    simp
  · rw [length_eq_size, toList_before, h.size_take]

/-- Two boundaries part a text in three. -/
theorem exists_three_parts (hm : IsBoundary s.toList m) (hn : IsBoundary s.toList n) (h : m ≤ n) :
    ∃ head part tail, s = head ++ part ++ tail ∧ m = length head ∧ n = length (head ++ part) := by
  obtain ⟨front, tail, rfl, rfl⟩ := exists_parts hn
  have hfront : IsBoundary front.toList m := by
    rw [String.toList_append] at hm
    rw [length_eq_size] at h
    exact (isBoundary_append_of_le h _).mp hm
  obtain ⟨head, part, rfl, rfl⟩ := exists_parts hfront
  exact ⟨head, part, tail, rfl, rfl, rfl⟩

@[simp] theorem before_append (head tail : String) : before (head ++ tail) (length head) = head := by
  apply String.toList_injective
  simp [length_eq_size]

@[simp] theorem after_append (head tail : String) : after (head ++ tail) (length head) = tail := by
  apply String.toList_injective
  simp [length_eq_size]

@[simp] theorem between_append (head part tail : String) :
    between (head ++ part ++ tail) (length head) (length (head ++ part)) = part := by
  apply String.toList_injective
  have hslice := slice_size head.toList part.toList tail.toList
  simpa [length_eq_size] using hslice

end Parts

end LineScript.Text
