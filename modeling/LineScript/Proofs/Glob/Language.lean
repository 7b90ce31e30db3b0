import LineScript.Proofs.Glob.Classes
import LineScript.Proofs.Regex.Words
import LineScript.Search.Expression

/-! The languages of globs: their regular expressions are read piece by piece, whatever classes they have in them. -/
namespace LineScript.Glob

open Regex (CharSet Piece ReadsAs Means ReadState)

variable {ignoreCase : Bool} {cs ms r glob : List Char} {L : Language Char}

/-- The texts that the regular expression of a glob matches as a whole. -/
def language (ignoreCase : Bool) (glob : List Char) : Language Char :=
  Regex.language ignoreCase (toRegex glob)

section Pieces

theorem means_dot : Means ignoreCase ['.'] {w | ∃ d, anyChar.holds d = true ∧ w = [d]} := by
  refine Regex.means_piece (r := .set anyChar) 0 trivial (Regex.hasWords_set anyChar) ?_
  intro s behind fuel ps h _ hfuel
  rw [List.length_append] at hfuel
  have hdot : Regex.Atom.dot.toSyntax? s.flags = some (.set anyChar) := by rw [h]; rfl
  exact ⟨fuel, by simp at hfuel; omega, Regex.branches_dot (by rw [h]) hdot⟩

theorem means_star : Means ignoreCase ['.', '*'] {w | ∀ d ∈ w, anyChar.holds d = true} := by
  have hwell : (Regex.Syntax.repeated (.set anyChar) 0 none true).WellFormed := ⟨by simp, trivial⟩
  refine Regex.means_piece 1 hwell (Regex.hasWords_repeated anyChar true) ?_
  intro s behind fuel ps h hhead hfuel
  simp only [List.length_append, List.length_cons, List.length_nil] at hfuel
  obtain ⟨fuel, rfl⟩ : ∃ f, fuel = f + 1 := ⟨fuel - 1, by omega⟩
  have hdot : Regex.Atom.dot.toSyntax? s.flags = some (.set anyChar) := by rw [h]; rfl
  have hblank : s.flags.ignoreBlank = false := by rw [h]
  have hgreed : (!s.flags.swapGreed) = true := by rw [h]; rfl
  have hstar : (Regex.branches (fuel + 1) [] (⟨some (.set anyChar), 0⟩ :: ps)).run (s.on ('*' :: behind)) =
      (Regex.branches fuel [] (⟨some (.repeated (.set anyChar) 0 none true), 1⟩ :: ps)).run (s.on behind) :=
    hgreed ▸ Regex.branches_star hblank hhead
  exact ⟨fuel, by omega, (Regex.branches_dot hblank hdot).trans hstar⟩

/-- The characters that one stands for. -/
def charSet (ignoreCase : Bool) (c : Char) : CharSet :=
  if ignoreCase then .folded true (.single c) else .single c

theorem means_charSet (c : Char) :
    Means ignoreCase (Regex.escapedChar c) {w | ∃ d, (charSet ignoreCase c).holds d = true ∧ w = [d]} := by
  refine Regex.means_piece (r := .set (charSet ignoreCase c)) 0 trivial (Regex.hasWords_set _) ?_
  intro s behind fuel ps h _ hfuel
  have hblank : s.flags.ignoreBlank = false := by rw [h]
  have hchar : (Regex.Atom.char c false).toSyntax? s.flags = some (.set (charSet ignoreCase c)) := by rw [h]; rfl
  rw [List.length_append] at hfuel
  refine ⟨fuel, ?_, ?_⟩
  · have hpos : 1 ≤ (Regex.escapedChar c).length := by
      unfold Regex.escapedChar
      split <;> simp
    omega
  · unfold Regex.escapedChar
    split
    · rename_i hc
      exact Regex.branches_escaped hblank hc hchar
    · rename_i hc
      exact Regex.branches_char hblank (Bool.eq_false_iff.mpr hc) hchar

theorem means_char (c : Char) : Means false (Regex.escapedChar c) {[c]} :=
  Regex.words_single c ▸ means_charSet c

theorem escapedChar_ne_nil (c : Char) : Regex.escapedChar c ≠ [] := by
  unfold Regex.escapedChar
  split <;> simp

theorem head?_escaped_ne (cs : List Char) : (Regex.escaped cs).head? ≠ some '?' := by
  cases cs with
  | nil => simp [Regex.escaped]
  | cons c cs =>
    unfold Regex.escaped Regex.escapedChar
    rw [List.flatMap_cons]
    split
    · simp
    · rename_i hc
      intro h
      have hmark : c = '?' := by simpa using h
      exact hc (by rw [hmark]; decide)

theorem exists_means_escaped (ignoreCase : Bool) (cs : List Char) : ∃ L, Means ignoreCase (Regex.escaped cs) L := by
  induction cs with
  | nil => exact ⟨1, Regex.means_nil⟩
  | cons c cs ih =>
    obtain ⟨L, hL⟩ := ih
    exact ⟨_, (means_charSet c).append hL (head?_escaped_ne cs)⟩

/-- Escaped text matches just itself. -/
theorem means_escaped (cs : List Char) : Means false (Regex.escaped cs) {cs} := by
  induction cs with
  | nil => exact Regex.means_nil
  | cons c cs ih =>
    have hmeans := (means_char c).append ih (head?_escaped_ne cs)
    have hwords : ({[c]} * {cs} : Language Char) = {c :: cs} := Set.image2_singleton
    rwa [hwords] at hmeans

/-- A class with members. -/
theorem exists_means_class (ignoreCase : Bool) (hms : ']' ∉ ms) (hinside : classText ms ≠ [] ∧ classText ms ≠ ['^']) :
    ∃ L, Means ignoreCase ('[' :: (classText ms ++ [']'])) L := by
  obtain ⟨o, ho⟩ := exists_bracketed ignoreCase hms hinside
  have hlength : ms.length ≤ (classText ms).length := by
    have hle (ms : List Char) := length_le_flatMap_member ms
    unfold classText
    split
    · rename_i cs
      rw [List.length_cons, List.length_cons]
      exact Nat.succ_le_succ (hle cs)
    · exact hle ms
  have hclass (s : ReadState) (behind : List Char) (fuel : Nat) (h : s.flags = { ignoreCase })
      (hfuel : 2 * ('[' :: (classText ms ++ [']']) ++ behind).length ≤ fuel) :
      (Regex.bracketed fuel).run (s.on ('[' :: (classText ms ++ ']' :: behind))) =
        o.map fun v => (v, s.on behind) := by
    apply ho s fuel behind h
    simp only [List.length_append, List.length_cons, List.length_nil] at hfuel
    omega
  have htext (behind : List Char) : '[' :: (classText ms ++ [']']) ++ behind =
      '[' :: (classText ms ++ ']' :: behind) := by
    simp
  cases o with
  | none =>
    refine ⟨0, .inl ⟨?_, rfl⟩⟩
    intro s behind fuel ps h _ hfuel
    obtain ⟨fuel, rfl⟩ : ∃ f, fuel = f + 1 := ⟨fuel - 1, by omega⟩
    refine ⟨_, Nat.le_refl _, ?_⟩
    have hnone := hclass s behind fuel h (by omega)
    rw [htext]
    exact Regex.branches_class_none (by rw [h]) hnone
  | some v =>
    refine ⟨_, Regex.means_piece (r := .set v.1) v.2 trivial (Regex.hasWords_set v.1) ?_⟩
    intro s behind fuel ps h _ hfuel
    have hsome := hclass s behind fuel h hfuel
    rw [htext]
    refine ⟨fuel, ?_, Regex.branches_class (by rw [h]) hsome⟩
    simp only [List.length_append, List.length_cons, List.length_nil] at hfuel
    omega

end Pieces

section Globs

theorem regexFrom_open (h : ']' ∉ cs) (seen : List Char) :
    regexFrom (.members seen) cs = openClass (seen.reverse ++ cs) := by
  induction cs generalizing seen with
  | nil => simp [regexFrom]
  | cons c cs ih =>
    obtain ⟨hc, hcs⟩ := not_or.mp (mt List.mem_cons.mpr h)
    rw [regexFrom, if_neg (Ne.symm hc), ih hcs]
    simp

/-- A bracket that no other one closes stands for itself, and so does what becomes of the characters behind it. -/
theorem toRegex_open (h : ']' ∉ r) : toRegex ('[' :: r) = Regex.escaped ('[' :: classText r) := by
  unfold toRegex
  rw [regexFrom, regexFrom_open h]
  rfl

theorem toRegex_closed (h : ']' ∉ ms) (rest : List Char) :
    toRegex ('[' :: (ms ++ ']' :: rest)) = closedClass ms ++ toRegex rest := by
  unfold toRegex
  rw [regexFrom, regexFrom_members h, List.reverse_nil, List.nil_append]

/-- Brackets with nothing to stand for between them stand for themselves. -/
theorem closedClass_empty (h : classText ms = [] ∨ classText ms = ['^']) :
    closedClass ms = Regex.escaped ('[' :: (classText ms ++ [']'])) := by
  unfold closedClass
  dsimp only
  rw [if_pos h]
  rcases h with h | h <;> rw [h] <;> rfl

theorem toRegex_plain (hc : c ∉ ['*', '?', '\\', '[']) (cs : List Char) :
    toRegex (c :: cs) = Regex.escapedChar c ++ toRegex cs := by
  simp only [List.mem_cons, List.not_mem_nil, or_false, not_or] at hc
  obtain ⟨hstar, hmark, hbackslash, hbracket⟩ := hc
  unfold toRegex
  conv_lhs => unfold regexFrom
  split
  · exact absurd rfl hstar
  · exact absurd rfl hmark
  · exact absurd rfl hbackslash
  · exact absurd rfl hbracket
  · rfl

/-- What a glob starts with, and the glob behind it. -/
theorem toRegex_cases (c : Char) (cs : List Char) : ∃ front behind, toRegex (c :: cs) = front ++ toRegex behind ∧
    behind.length ≤ cs.length ∧ front.head? ≠ some '?' ∧ front ≠ [] ∧
      ∀ ignoreCase, ∃ L, Means ignoreCase front L := by
  have hchar (d : Char) : (Regex.escapedChar d).head? ≠ some '?' ∧ Regex.escapedChar d ≠ [] ∧
      ∀ ignoreCase, ∃ L, Means ignoreCase (Regex.escapedChar d) L := by
    have hhead := head?_escaped_ne [d]
    rw [Regex.escaped, List.flatMap_singleton] at hhead
    exact ⟨hhead, escapedChar_ne_nil d, fun _ => ⟨_, means_charSet d⟩⟩
  have htext (d : Char) (ds : List Char) : (Regex.escaped (d :: ds)).head? ≠ some '?' ∧
      Regex.escaped (d :: ds) ≠ [] ∧ ∀ ignoreCase, ∃ L, Means ignoreCase (Regex.escaped (d :: ds)) L := by
    refine ⟨head?_escaped_ne _, ?_, fun ignoreCase => exists_means_escaped ignoreCase _⟩
    rw [Regex.escaped, List.flatMap_cons]
    exact List.append_ne_nil_of_left_ne_nil (escapedChar_ne_nil d) _
  by_cases hplain : c ∉ ['*', '?', '\\', '[']
  · exact ⟨_, cs, toRegex_plain hplain cs, Nat.le_refl _, hchar c⟩
  · simp only [List.mem_cons, List.not_mem_nil, or_false, not_not] at hplain
    rcases hplain with rfl | rfl | rfl | rfl
    · exact ⟨['.', '*'], cs, rfl, Nat.le_refl _, by simp, by simp, fun _ => ⟨_, means_star⟩⟩
    · exact ⟨['.'], cs, rfl, Nat.le_refl _, by simp, by simp, fun _ => ⟨_, means_dot⟩⟩
    · cases cs with
      | nil => exact ⟨Regex.escapedChar '\\', [], rfl, Nat.le_refl _, hchar _⟩
      | cons d ds => exact ⟨Regex.escapedChar d, ds, rfl, Nat.le_succ _, hchar d⟩
    · by_cases hclosed : ']' ∈ cs
      · obtain ⟨ms, rest, rfl, hms⟩ := List.eq_append_cons_of_mem hclosed
        have hlength : rest.length ≤ (ms ++ ']' :: rest).length := by
          rw [List.length_append, List.length_cons]
          omega
        by_cases hinside : classText ms = [] ∨ classText ms = ['^']
        · exact ⟨_, rest, (toRegex_closed hms rest).trans (by rw [closedClass_empty hinside]), hlength, htext _ _⟩
        · have hclass : closedClass ms = '[' :: (classText ms ++ [']']) := by
            unfold closedClass
            dsimp only
            rw [if_neg hinside]
            rfl
          refine ⟨_, rest, (toRegex_closed hms rest).trans (by rw [hclass]), hlength, by simp, by simp, ?_⟩
          exact fun ignoreCase => exists_means_class ignoreCase hms (not_or.mp hinside)
      · exact ⟨_, [], (toRegex_open hclosed).trans (List.append_nil _).symm, Nat.zero_le _, htext _ _⟩

theorem head?_toRegex_ne (glob : List Char) : (toRegex glob).head? ≠ some '?' := by
  cases glob with
  | nil => simp [toRegex, regexFrom]
  | cons c cs =>
    obtain ⟨front, behind, htext, -, hhead, hne, -⟩ := toRegex_cases c cs
    obtain ⟨d, front, rfl⟩ := List.exists_cons_of_ne_nil hne
    rw [htext]
    exact hhead

/-- Every glob is read as pieces, or refused. -/
theorem means_toRegex (ignoreCase : Bool) (glob : List Char) :
    Means ignoreCase (toRegex glob) (language ignoreCase glob) := by
  suffices h : ∃ L, Means ignoreCase (toRegex glob) L by
    obtain ⟨L, hL⟩ := h
    unfold language
    rwa [hL.language_eq]
  induction hn : glob.length using Nat.strongRecOn generalizing glob with
  | ind n ih =>
    cases glob with
    | nil => exact ⟨1, Regex.means_nil⟩
    | cons c cs =>
      obtain ⟨front, behind, htext, hlength, -, -, hfront⟩ := toRegex_cases c cs
      obtain ⟨L, hL⟩ := hfront ignoreCase
      rw [List.length_cons] at hn
      obtain ⟨M, hM⟩ := ih behind.length (by omega) behind rfl
      rw [htext]
      exact ⟨L * M, hL.append hM (head?_toRegex_ne behind)⟩

/-- The language of a glob, by what it starts with. -/
theorem language_eq_mul {front behind : List Char} (htext : toRegex glob = front ++ toRegex behind)
    (hL : Means ignoreCase front L) : language ignoreCase glob = L * language ignoreCase behind := by
  have hmeans := hL.append (means_toRegex ignoreCase behind) (head?_toRegex_ne behind)
  rw [← htext] at hmeans
  exact hmeans.language_eq

/-- What the regular expression of a glob finds are the texts of its language. -/
theorem search_iff_language {pattern : String} {machine : Regex.Node} {groupCount : Nat}
    (hcompile : Search.compile pattern ignoreCase (toRegex glob) = .ok (machine, groupCount)) (text : List Char) :
    (Regex.search? machine groupCount text 0).isSome = true ↔
      ∃ part, part <:+: text ∧ part ∈ language ignoreCase glob := by
  unfold Search.compile at hcompile
  split at hcompile
  · cases hcompile
  · rename_i r hread
    split at hcompile
    · cases hcompile
    · cases hcompile
      exact (means_toRegex ignoreCase glob).search_iff hread _ text

end Globs

end LineScript.Glob
