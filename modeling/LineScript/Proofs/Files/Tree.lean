import LineScript.Files.Tree
import LineScript.Proofs.Lookup
import Mathlib.Data.List.DropRight

/-! Files that are written, and what is read afterwards. A path that leads to a file still leads to it when
that or another file is written. -/
namespace LineScript.FileTree

variable {t t' : FileTree} {here directory p q : List String} {names : List String} {path : String}
  {e : FileEntry} {s : Spot} {content c : ByteArray} {append : Bool}

theorem get?_put (hp : p ≠ []) (t : FileTree) (e : FileEntry) (q : List String) :
    (t.put p e).get? q = if q = p then some e else t.get? q := by
  by_cases hroot : q = []
  · have hne : q ≠ p := fun h => hp (h.symm.trans hroot)
    rw [if_neg hne, get?, get?, if_pos hroot, if_pos hroot]
  · rw [get?, get?, if_neg hroot, if_neg hroot, put]
    by_cases h : q = p
    · rw [if_pos h, h, List.lookup_cons, beq_self_eq_true]
    · have hother : (q != p) = true := bne_iff_ne.mpr h
      rw [if_neg h, lookup_cons_ne h, lookup_filter (· != p), if_pos hother]

theorem ne_nil_of_get? (h : t.get? p ≠ some .directory) : p ≠ [] := by
  intro hp
  rw [get?, if_pos hp] at h
  exact h rfl

/-- How names are followed: the first of them is a dot, two dots, the name of an entry, or the last one. -/
theorem follow_cons_iff {name : String} {rest : List String} : t.follow here (name :: rest) = .ok s ↔
    t.get? here = some .directory ∧
      if name = "." then t.follow here rest = .ok s
      else if name = ".." then t.follow here.dropLast rest = .ok s
      else ¬ 255 < Text.length name ∧
        (((t.get? (here ++ [name])).isSome = true ∧ t.follow (here ++ [name]) rest = .ok s) ∨
          t.get? (here ++ [name]) = none ∧ rest = [] ∧ s = ⟨here ++ [name], none⟩) := by
  rw [follow]
  cases t.get? here with
  | none => simp
  | some e =>
    cases e with
    | file => simp
    | directory =>
      dsimp only
      split
      · simp
      split
      · simp
      split
      · simp [*]
      cases t.get? (here ++ [name]) with
      | none => cases rest <;> simp [*, eq_comm]
      | some e => simp [*]

/-- Names are followed to an entry or to a place for one. -/
theorem follow_entry (h : t.follow here names = .ok s) : s.entry = t.get? s.path := by
  induction names generalizing here with
  | nil =>
    cases h
    rfl
  | cons name rest ih =>
    obtain ⟨-, h⟩ := follow_cons_iff.mp h
    split at h
    · exact ih h
    split at h
    · exact ih h
    obtain ⟨-, ⟨-, h⟩ | ⟨hnone, -, rfl⟩⟩ := h
    · exact ih h
    · exact hnone.symm

/-- A dot at the end is for directories. -/
theorem follow_dot (h : t.follow here (names ++ ["."]) = .ok s) : s.entry = some .directory := by
  induction names generalizing here with
  | nil =>
    obtain ⟨hhere, h⟩ := follow_cons_iff.mp h
    rw [if_pos rfl] at h
    cases h
    exact hhere
  | cons name rest ih =>
    obtain ⟨-, h⟩ := follow_cons_iff.mp h
    split at h
    · exact ih h
    split at h
    · exact ih h
    obtain ⟨-, ⟨-, h⟩ | ⟨-, hnil, -⟩⟩ := h
    · exact ih h
    · exact absurd hnil (List.append_ne_nil_of_right_ne_nil rest (List.cons_ne_nil _ _))

/-- Names that lead to an entry still lead there when a file is written. -/
theorem follow_put (hp : t.get? p ≠ some .directory) (hs : s.entry.isSome = true)
    (h : t.follow here names = .ok s) : (t.put p (.file c)).follow here names =
      .ok (if s.path = p then ⟨p, some (.file c)⟩ else s) := by
  have hget := get?_put (ne_nil_of_get? hp) t (.file c)
  induction names generalizing here with
  | nil =>
    cases h
    rw [follow, hget]
    by_cases hhere : here = p
    · rw [if_pos hhere, if_pos hhere, hhere]
    · rw [if_neg hhere, if_neg hhere]
  | cons name rest ih =>
    obtain ⟨hhere, h⟩ := follow_cons_iff.mp h
    have hne : here ≠ p := by
      rintro rfl
      exact hp hhere
    refine follow_cons_iff.mpr ⟨by rw [hget, if_neg hne, hhere], ?_⟩
    by_cases hdot : name = "."
    · rw [if_pos hdot] at h ⊢
      exact ih h
    by_cases hdots : name = ".."
    · rw [if_neg hdot, if_pos hdots] at h ⊢
      exact ih h
    rw [if_neg hdot, if_neg hdots] at h ⊢
    obtain ⟨hshort, ⟨hnext, h⟩ | ⟨-, -, rfl⟩⟩ := h
    · refine ⟨hshort, .inl ⟨?_, ih h⟩⟩
      rw [hget]
      split
      · rfl
      · exact hnext
    · cases hs

theorem locate_eq_follow (h : t.locate directory path = .ok s) (t' : FileTree) :
    t'.locate directory path = t'.follow (if Path.isAbsolute path then [] else directory) (steps path) := by
  unfold locate at h ⊢
  split at h
  · cases h
  split at h
  · cases h
  split at h
  · cases h
  rw [if_neg ‹_›, if_neg ‹_›, if_neg ‹_›]

theorem locate_entry (h : t.locate directory path = .ok s) : s.entry = t.get? s.path := by
  rw [locate_eq_follow h] at h
  exact follow_entry h

theorem locate_put (hp : t.get? p ≠ some .directory) (hs : s.entry.isSome = true)
    (h : t.locate directory path = .ok s) : (t.put p (.file c)).locate directory path =
      .ok (if s.path = p then ⟨p, some (.file c)⟩ else s) := by
  rw [locate_eq_follow h]
  rw [locate_eq_follow h] at h
  exact follow_put hp hs h

theorem withoutSlash_eq (h : path.toList.getLast? ≠ some '/') : withoutSlash path = path := by
  have hcs : path.toList.rdropWhile (· == '/') = path.toList := by
    rw [List.rdropWhile_eq_self_iff]
    intro hne hlast
    rw [List.getLast?_eq_some_getLast hne, beq_iff_eq.mp hlast] at h
    exact h rfl
  change (if (path.toList.rdropWhile (· == '/')).isEmpty && !path.isEmpty then "/"
    else String.ofList (path.toList.rdropWhile (· == '/'))) = path
  rw [hcs, String.ofList_toList]
  by_cases hempty : path = ""
  · rw [hempty]
    rfl
  · have hchars : path.toList.isEmpty = false := by
      rw [List.isEmpty_eq_false_iff]
      exact fun hnil => hempty (String.toList_eq_nil_iff.mp hnil)
    rw [hchars, Bool.false_and, if_neg Bool.false_ne_true]

/-- What is written comes to the place where the path leads, which is no directory. -/
theorem write_eq_ok (h : t.write directory path content append = .ok t') :
    ∃ p entry new, t.locate directory path = .ok ⟨p, entry⟩ ∧ entry ≠ some .directory ∧
      t' = t.put p (.file new) ∧
      ∀ old, entry = some (.file old) → new = if append then old ++ content else content := by
  unfold write at h
  cases hlocate : t.locate directory (withoutSlash path) with
  | error e =>
    rw [hlocate] at h
    cases h
  | ok s =>
    obtain ⟨p, entry⟩ := s
    rw [hlocate] at h
    have hentry : entry ≠ some .directory := by
      rintro rfl
      cases h
    by_cases hslash : path.toList.getLast? = some '/'
    · rw [hslash] at h
      split at h <;> cases h
    · rw [withoutSlash_eq hslash] at hlocate
      refine ⟨p, entry, ?_⟩
      cases entry with
      | none =>
        dsimp only at h
        rw [if_neg hslash] at h
        cases h
        exact ⟨_, hlocate, hentry, rfl, nofun⟩
      | some e =>
        cases e with
        | directory => exact absurd rfl hentry
        | file old =>
          dsimp only at h
          rw [if_neg hslash] at h
          cases h
          refine ⟨_, hlocate, hentry, rfl, fun _ hold => ?_⟩
          cases hold
          rfl

/-- Names that lead to a file or to a place for one lead to the file that is put there. -/
theorem follow_put_self (hs : s.entry ≠ some .directory) (h : t.follow here names = .ok s) :
    (t.put s.path (.file c)).follow here names = .ok ⟨s.path, some (.file c)⟩ := by
  have hp : t.get? s.path ≠ some .directory := by
    rw [← follow_entry h]
    exact hs
  have hget := get?_put (ne_nil_of_get? hp) t (.file c)
  induction names generalizing here with
  | nil =>
    cases h
    rw [follow, hget, if_pos rfl]
  | cons name rest ih =>
    obtain ⟨hhere, h⟩ := follow_cons_iff.mp h
    have hne : here ≠ s.path := by
      intro heq
      rw [heq] at hhere
      exact hp hhere
    have hhere' : (t.put s.path (.file c)).get? here = some .directory := by
      rw [hget, if_neg hne, hhere]
    apply follow_cons_iff.mpr
    constructor
    · exact hhere'
    by_cases hdot : name = "."
    · rw [if_pos hdot] at h ⊢
      exact ih h
    by_cases hdots : name = ".."
    · rw [if_neg hdot, if_pos hdots] at h ⊢
      exact ih h
    rw [if_neg hdot, if_neg hdots] at h ⊢
    obtain ⟨hshort, ⟨hnext, h⟩ | ⟨-, hrest, hspot⟩⟩ := h
    · have hnext' : ((t.put s.path (.file c)).get? (here ++ [name])).isSome = true := by
        rw [hget]
        split
        · rfl
        · exact hnext
      exact ⟨hshort, .inl ⟨hnext', ih h⟩⟩
    · -- The last name is that of the file itself.
      have hpath : here ++ [name] = s.path := by rw [hspot]
      have hthere : (t.put s.path (.file c)).get? (here ++ [name]) = some (.file c) := by
        rw [hget, if_pos hpath]
      have hend : (t.put s.path (.file c)).follow (here ++ [name]) rest =
          .ok ⟨s.path, some (.file c)⟩ := by
        rw [hrest, follow, hthere, hpath]
      exact ⟨hshort, .inl ⟨by rw [hthere]; rfl, hend⟩⟩

/-- Whether a path can be written to: it has no separator at its end, and leads to a file or to a place for
one. -/
def IsWritable (t : FileTree) (directory : List String) (path : String) : Prop :=
  path.toList.getLast? ≠ some '/' ∧ ∃ s, t.locate directory path = .ok s ∧ s.entry ≠ some .directory

/-- Where a path leads that can be written to, a file is put. -/
theorem write_of_locate (hslash : path.toList.getLast? ≠ some '/')
    (hlocate : t.locate directory path = .ok s) (hs : s.entry ≠ some .directory) (content : ByteArray)
    (append : Bool) : ∃ new, t.write directory path content append = .ok (t.put s.path (.file new)) ∧
      (append = false → new = content) := by
  obtain ⟨p, entry⟩ := s
  unfold write
  rw [withoutSlash_eq hslash, hlocate]
  cases entry with
  | none => exact ⟨content, by simp [hslash], fun _ => rfl⟩
  | some e =>
    cases e with
    | directory => exact absurd rfl hs
    | file old =>
      refine ⟨if append then old ++ content else content, by simp [hslash], fun happend => ?_⟩
      simp [happend]

/-- Exactly the paths that can be written to take what is written. -/
theorem exists_write_iff :
    (∃ t', t.write directory path content append = .ok t') ↔ t.IsWritable directory path := by
  constructor
  · rintro ⟨t', h⟩
    obtain ⟨p, entry, new, hlocate, hentry, -, -⟩ := write_eq_ok h
    have hslash : path.toList.getLast? ≠ some '/' := by
      intro hslash
      unfold write at h
      split at h
      · cases h
      · cases h
      · rw [if_pos hslash] at h
        cases h
    exact ⟨hslash, ⟨p, entry⟩, hlocate, hentry⟩
  · rintro ⟨hslash, s, hlocate, hs⟩
    obtain ⟨new, hwrite, -⟩ := write_of_locate hslash hlocate hs content append
    exact ⟨_, hwrite⟩

/-- Whether a path leads to a file with some content, and by which names. -/
def LeadsTo (t : FileTree) (directory : List String) (path : String) (p : List String)
    (content : ByteArray) : Prop :=
  t.locate directory path = .ok ⟨p, some (.file content)⟩

namespace LeadsTo

variable {f : String}

theorem get?_eq (h : t.LeadsTo directory f q c) : t.get? q = some (.file c) :=
  (locate_entry h).symm

/-- A path that leads to a file has no separator at its end. -/
theorem getLast?_ne (h : t.LeadsTo directory f q c) : f.toList.getLast? ≠ some '/' := by
  intro hslash
  have hfollow := h
  rw [LeadsTo, locate_eq_follow h, steps, if_pos hslash] at hfollow
  cases follow_dot hfollow

theorem read_eq (h : t.LeadsTo directory f q c) : t.read directory f = .ok c := by
  rw [read, h]

theorem of_read (h : t.read directory f = .ok c) : ∃ q, t.LeadsTo directory f q c := by
  unfold read at h
  split at h
  · cases h
  · cases h
  · cases h
  · next hlocate =>
    cases h
    exact ⟨_, hlocate⟩

/-- A path that can be written to leads to what is written there in place of what was there before. -/
theorem of_write (h : t.IsWritable directory path) (content : ByteArray) :
    ∃ t' q, t.write directory path content false = .ok t' ∧ t'.LeadsTo directory path q content := by
  obtain ⟨hslash, s, hlocate, hs⟩ := h
  obtain ⟨new, hwrite, hnew⟩ := write_of_locate hslash hlocate hs content false
  rw [hnew rfl] at hwrite
  have hfollow := hlocate
  rw [locate_eq_follow hlocate] at hfollow
  have hthere := follow_put_self (c := content) hs hfollow
  refine ⟨_, s.path, hwrite, ?_⟩
  rw [LeadsTo, locate_eq_follow hlocate]
  exact hthere

theorem exists_write (h : t.LeadsTo directory f q c) (content : ByteArray) (append : Bool) :
    ∃ t', t.write directory f content append = .ok t' := by
  rw [write, withoutSlash_eq h.getLast?_ne, h]
  dsimp only
  rw [if_neg h.getLast?_ne]
  exact ⟨_, rfl⟩

/-- Writing to another file changes nothing. -/
theorem write_other (h : t.LeadsTo directory f q c)
    (hw : t.write directory path content append = .ok t')
    (hne : t.locate directory path ≠ t.locate directory f) : t'.LeadsTo directory f q c := by
  obtain ⟨p, entry, new, hlocate, hentry, rfl, -⟩ := write_eq_ok hw
  have hget : entry = t.get? p := locate_entry hlocate
  have hput := locate_put (c := new) (hget ▸ hentry) rfl h
  have hq : q ≠ p := by
    rintro rfl
    rw [hlocate, hget, h.get?_eq, h] at hne
    exact hne rfl
  rw [if_neg hq] at hput
  exact hput

theorem write_same (h : t.LeadsTo directory f q c)
    (hw : t.write directory path content append = .ok t')
    (hsame : t.locate directory path = t.locate directory f) :
    t'.LeadsTo directory f q (if append then c ++ content else content) := by
  obtain ⟨p, entry, new, hlocate, hentry, rfl, hnew⟩ := write_eq_ok hw
  have hget : entry = t.get? p := locate_entry hlocate
  have hput := locate_put (c := new) (hget ▸ hentry) rfl h
  rw [hlocate, h] at hsame
  cases hsame
  rw [if_pos rfl] at hput
  rw [← hnew c rfl]
  exact hput

end LeadsTo

end LineScript.FileTree
