import LineScript.Proofs.Script.Taken
import LineScript.Proofs.Script.Values
import LineScript.Run.Value

/-! What values cover of the line that they are read from: the tokens of their fragments, one behind the other, with
the gaps between them. -/
namespace LineScript

/-- Whether a token stands for its text in a value: a number, a word, an operator or a character that starts no other
token. -/
def Token.isPlain (t : Token) : Bool :=
  match t.kind with
  | .number | .identifier | .keyword _ | .operator | .unknown => true
  | _ => false

namespace Script

open Reading

/-- Some tokens with the fragment that they are read as. -/
structure Piece where
  first : Token
  more : List Token
  fragment : Fragment

/-- The tokens of a piece in their order. -/
def Piece.tokens (p : Piece) : List Token :=
  p.first :: p.more

/-- The byte offset behind the last token of a piece. -/
def Piece.stop (p : Piece) : Nat :=
  (p.more.getLast?.getD p.first).stop

/-- The fragments of some pieces and of the gaps between them, each with the part of the text that it covers; `last`
is where the piece in front ends. -/
def stretches (text : String) : Option Nat → List Piece → List (String × Fragment)
  | _, [] => []
  | last, p :: ps =>
    let before := last.elim "" (Text.between text · p.first.column)
    (gap text last p.first).map (before, ·) ++
      (Text.between text p.first.column p.stop, p.fragment) :: stretches text (some p.stop) ps

/-- The value that some pieces make up, with the gaps between them. -/
def woven (text : String) (last : Option Nat) (ps : List Piece) : Value :=
  (stretches text last ps).map Prod.snd

theorem woven_cons (text : String) (last : Option Nat) (p : Piece) (ps : List Piece) :
    woven text last (p :: ps) = gap text last p.first ++ p.fragment :: woven text (some p.stop) ps := by
  simp only [woven, stretches, List.map_append, List.map_cons, List.map_map]
  congr 1
  exact List.map_id _

mutual

/-- Whether some tokens of a text spell a fragment: a single token, or the name of a function with its arguments. -/
inductive SpellsFragment (text : String) : List Token → Fragment → Prop
  | reference {t : Token} : classOf? t = some .variable → SpellsFragment text [t] (.variable (variableName t))
  | buffer {t : Token} : classOf? t = some .buffer → SpellsFragment text [t] (.buffer (bufferRef t))
  | template {t : Token} {v : String} {template : Template} : t.kind = .string v → t.text.toList.head? = some '"' →
      Template.ofText true (t.text.toList.drop 1).dropLast = .ok template → SpellsFragment text [t] (.text template)
  | quoted {t : Token} {v : String} : t.kind = .string v → t.text.toList.head? ≠ some '"' →
      SpellsFragment text [t] (.text (.literal v))
  | plain {t : Token} : classOf? t = none → (∀ v, t.kind ≠ .string v) →
      SpellsFragment text [t] (.text (.literal t.text))
  | call {t opening : Token} {ts : List Token} {f : Builtin} {as : List Argument} : classOf? t = some .function →
      Builtin.ofName? t.text = some f → opening.isOperator "(" = true → SpellsArguments text f ts as →
      callMistake? f as = none → SpellsFragment text (t :: opening :: ts) (.call f as)

/-- Whether some tokens spell the arguments of a function, up to the parenthesis behind them. -/
inductive SpellsArguments (text : String) : Builtin → List Token → List Argument → Prop
  | none {f : Builtin} {closing : Token} : closing.isOperator ")" = true → SpellsArguments text f [closing] []
  | some {f : Builtin} {ts : List Token} {as : List Argument} : SpellsList text f.signature.parameters ts as →
      SpellsArguments text f ts as

/-- Whether some tokens spell arguments for some parameters, with commas between them and a parenthesis at the end. -/
inductive SpellsList (text : String) : List Parameter → List Token → List Argument → Prop
  | last {p : Parameter} {ps : List Parameter} {ts : List Token} {closing : Token} {a : Argument} :
      SpellsArgument text p ts a → closing.isOperator ")" = true → SpellsList text (p :: ps) (ts ++ [closing]) [a]
  | more {p : Parameter} {ps : List Parameter} {ts us : List Token} {comma : Token} {a : Argument}
      {as : List Argument} : SpellsArgument text p ts a → comma.isOperator "," = true → SpellsList text ps us as →
      SpellsList text (p :: ps) (ts ++ comma :: us) (a :: as)

/-- Whether some tokens spell an argument for a parameter. -/
inductive SpellsArgument (text : String) : Parameter → List Token → Argument → Prop
  | buffer {t : Token} : classOf? t = some .buffer → (bufferRef t).selector = .all →
      SpellsArgument text .buffer [t] (.buffer (bufferRef t).name)
  | pattern {t : Token} {s : TokenStream} {p : Pattern} : classOf? t = some .pattern →
      outcome (patternOf t) s = (.ok p, s) → SpellsArgument text .pattern [t] (.pattern p)
  | value {p : Parameter} {ps : List Piece} : p ≠ .buffer → ps ≠ [] →
      (∀ q ∈ ps, SpellsFragment text q.tokens q.fragment) → (∀ q ∈ ps, stopsValue [",", ")"] q.first = false) →
      SpellsArgument text p (ps.flatMap Piece.tokens) (.value (woven text none ps))

end

/-- Whether reading a value leads from a stream to another by way of some pieces: it takes their tokens, none of which
starts with a token that ends the value, and comes to one that does. -/
structure ReadsValue (stops : List String) (last : Option Nat) (s : TokenStream) (ps : List Piece) (v : Value)
    (s' : TokenStream) : Prop where
  takes : s.Takes (ps.flatMap Piece.tokens) s'
  spelled : ∀ p ∈ ps, SpellsFragment s.text p.tokens p.fragment
  goesOn : ∀ p ∈ ps, stopsValue stops p.first = false
  ends : ∃ t, s'.scan true = .ok t ∧ stopsValue stops t = true
  value : v = woven s.text last ps

/-- Whether what is read with so many levels is what the tokens spell that are taken. -/
structure Faithful (fuel : Nat) : Prop where
  fragments : ∀ {s s' : TokenStream} {stops : List String} {last : Option Nat} {v : Value}, s.Regular →
    outcome (fragments stops fuel last) s = (.ok v, s') → ∃ ps, ReadsValue stops last s ps v s'
  fragment : ∀ {s s' : TokenStream} {t : Token} {f : Fragment}, s.Regular →
    outcome (fragment fuel t) s = (.ok f, s') → ∃ ts, s.Takes ts s' ∧ SpellsFragment s.text (t :: ts) f
  call : ∀ {s s' : TokenStream} {t : Token} {f : Builtin} {as : List Argument}, s.Regular →
    classOf? t = some .function → outcome (call fuel t) s = (.ok (f, as), s') →
      ∃ ts, s.Takes ts s' ∧ SpellsFragment s.text (t :: ts) (.call f as)
  arguments : ∀ {s s' : TokenStream} {t : Token} {f : Builtin} {ps : List Parameter} {as : List Argument}, s.Regular →
    outcome (arguments fuel t f ps) s = (.ok as, s') → ∃ ts, s.Takes ts s' ∧ SpellsList s.text ps ts as

theorem kind_ne_of_classOf? {t : Token} {k : SpecialClass} (h : classOf? t = some k) : t.kind ≠ .endOfInput := by
  intro hkind
  rw [classOf?, hkind] at h
  cases h

namespace Faithful

variable {fuel : Nat} {s s' : TokenStream} {t : Token}

theorem fragments_succ (h : Faithful fuel) {stops : List String} {last : Option Nat} {v : Value} (hs : s.Regular)
    (hread : outcome (Script.fragments stops (fuel + 1) last) s = (.ok v, s')) :
    ∃ ps, ReadsValue stops last s ps v s' := by
  rw [Script.fragments] at hread
  obtain ⟨t, s₁, hpeek, hread⟩ := outcome_bind_eq_ok.mp hread
  obtain ⟨hscan, hlooked⟩ := hs.of_peek hpeek
  have hs₁ := hlooked.regular hs
  by_cases hstop : stopsValue stops t = true
  · rw [if_pos hstop] at hread
    cases hread
    exact ⟨[], hlooked, List.forall_mem_nil _, List.forall_mem_nil _, ⟨t, hscan, hstop⟩, rfl⟩
  have hkind := kind_ne_of_not_stopsValue hstop
  rw [if_neg hstop] at hread
  obtain ⟨_, _, hget, hread⟩ := outcome_bind_eq_ok.mp hread
  cases hget
  obtain ⟨_, s₂, hnext, hread⟩ := outcome_bind_eq_ok.mp hread
  obtain ⟨t', hscan', rfl⟩ := hs₁.of_discard_next hnext
  rw [hscan] at hscan'
  cases hscan'
  have hs₂ := hs₁.past hscan hkind
  obtain ⟨f, s₃, hfragment, hread⟩ := outcome_bind_eq_ok.mp hread
  obtain ⟨more, hmore, hspells⟩ := h.fragment hs₂ hfragment
  obtain ⟨_, _, hget, hread⟩ := outcome_bind_eq_ok.mp hread
  cases hget
  obtain ⟨rest, s₄, hrest, hread⟩ := outcome_bind_eq_ok.mp hread
  cases hread
  obtain ⟨ps, htail⟩ := h.fragments (hmore.regular hs₂) hrest
  have htext : s₁.text = s.text := hlooked.text
  have hstop' : s₃.offset = (Piece.mk t more f).stop := by
    rw [hmore.offset]
    cases h : more.getLast? <;> simp [Piece.stop, h, TokenStream.past]
  have htext₃ : s₃.text = s.text := hmore.text.trans htext
  have hfirst : SpellsFragment s₁.text (t :: more) f := hspells
  rw [hstop'] at htail
  rw [htext] at hfirst ⊢
  refine ⟨⟨t, more, f⟩ :: ps, ?_, ?_, ?_, htail.ends, ?_⟩
  · exact (hlooked.append (.one hscan hkind)).append (hmore.append htail.takes)
  · exact List.forall_mem_cons.mpr ⟨hfirst, htext₃ ▸ htail.spelled⟩
  · exact List.forall_mem_cons.mpr ⟨Bool.eq_false_iff.mpr hstop, htail.goesOn⟩
  · rw [woven_cons, htail.value, htext₃]

theorem of_fitting {f g : Builtin} {as bs : List Argument}
    (hread : outcome (match callMistake? g bs with
      | some m => refuseAt t m
      | none => pure (g, bs) : Reading (Builtin × List Argument)) s = (.ok (f, as), s')) :
    (g = f ∧ bs = as ∧ s = s') ∧ callMistake? f as = none := by
  split at hread
  · cases hread
  · rename_i hfits
    cases hread
    exact ⟨⟨rfl, rfl, rfl⟩, hfits⟩

theorem call_succ (h : Faithful fuel) {f : Builtin} {as : List Argument} (hs : s.Regular)
    (hclass : classOf? t = some .function) (hread : outcome (Script.call (fuel + 1) t) s = (.ok (f, as), s')) :
    ∃ ts, s.Takes ts s' ∧ SpellsFragment s.text (t :: ts) (.call f as) := by
  rw [Script.call] at hread
  cases hname : Builtin.ofName? t.text with
  | none =>
    rw [hname] at hread
    cases hread
  | some g =>
    rw [hname] at hread
    obtain ⟨_, s₁, hexpect, hread⟩ := outcome_bind_eq_ok.mp hread
    obtain ⟨opening, hopening, htaken⟩ := hs.of_expectOperator hexpect
    have hs₁ := htaken.regular hs
    obtain ⟨closed, s₂, haccept, hread⟩ := outcome_bind_eq_ok.mp hread
    rcases hs₁.of_acceptOperator haccept with ⟨rfl, closing, hclosing, htakes⟩ | ⟨rfl, htakes⟩
    · obtain ⟨⟨rfl, rfl, rfl⟩, hfits⟩ := of_fitting hread
      exact ⟨[opening, closing], htaken.append htakes, .call hclass hname hopening (.none hclosing) hfits⟩
    · obtain ⟨bs, s₃, harguments, hread⟩ := outcome_bind_eq_ok.mp hread
      obtain ⟨⟨rfl, rfl, rfl⟩, hfits⟩ := of_fitting hread
      obtain ⟨ts, hts, hlist⟩ := h.arguments (htakes.regular hs₁) harguments
      rw [htakes.text, htaken.text] at hlist
      exact ⟨opening :: ts, htaken.append (htakes.append hts), .call hclass hname hopening (.some hlist) hfits⟩

theorem fragment_succ (h : Faithful fuel) {f : Fragment} (hs : s.Regular)
    (hread : outcome (Script.fragment (fuel + 1) t) s = (.ok f, s')) :
    ∃ ts, s.Takes ts s' ∧ SpellsFragment s.text (t :: ts) f := by
  have hnothing : s.Takes [] s := .nothing hs.pending
  rw [Script.fragment] at hread
  split at hread
  · rename_i hclass
    cases hread
    exact ⟨[], hnothing, .reference hclass⟩
  · rename_i hclass
    cases hread
    exact ⟨[], hnothing, .buffer hclass⟩
  · rename_i hclass
    obtain ⟨⟨g, as⟩, s₁, hcall, hread⟩ := outcome_bind_eq_ok.mp hread
    cases hread
    exact h.call hs hclass hcall
  · cases hread
  · rename_i hclass
    split at hread
    · rename_i v hkind
      split at hread
      · rename_i hquote
        split at hread
        · rename_i htemplate
          cases hread
          exact ⟨[], hnothing, .template hkind hquote htemplate⟩
        · cases hread
      · rename_i hquote
        cases hread
        exact ⟨[], hnothing, .quoted hkind hquote⟩
    · rename_i hkind
      cases hread
      exact ⟨[], hnothing, .plain hclass hkind⟩

theorem of_expectBufferName (hs : s.Regular) {name : String}
    (hread : outcome expectBufferName s = (.ok name, s')) :
    ∃ t, s.Takes [t] s' ∧ SpellsArgument s.text .buffer [t] (.buffer name) := by
  unfold expectBufferName expectBuffer at hread
  obtain ⟨b, s₁, hbuffer, hread⟩ := outcome_bind_eq_ok.mp hread
  obtain ⟨t, s₂, hnext, hbuffer⟩ := outcome_bind_eq_ok.mp hbuffer
  obtain ⟨hscan, rfl⟩ := hs.of_next hnext
  split at hbuffer
  · rename_i hclass
    have hclass : classOf? t = some .buffer := beq_iff_eq.mp hclass
    cases hbuffer
    split at hread
    · rename_i hselector
      cases hread
      exact ⟨t, .one hscan (kind_ne_of_classOf? hclass), .buffer hclass (beq_iff_eq.mp hselector)⟩
    · cases hread
  · cases hbuffer

theorem of_patternOf {p : Pattern} (hread : outcome (patternOf t) s = (.ok p, s')) : s' = s := by
  unfold patternOf at hread
  split at hread
  · split at hread
    · cases hread
    · dsimp only at hread
      split at hread <;> obtain ⟨body, s₁, hbody, hread⟩ := outcome_bind_eq_ok.mp hread
      · cases hbody
        split at hread <;> split at hread <;> cases hread <;> rfl
      · cases hbody
  · cases hread

theorem of_acceptPattern (hs : s.Regular) {found : Option Pattern}
    (hread : outcome acceptPattern s = (.ok found, s')) :
    match found with
    | some p => ∃ t, s.Takes [t] s' ∧ SpellsArgument s.text .pattern [t] (.pattern p)
    | none => s.Takes [] s' := by
  unfold acceptPattern at hread
  obtain ⟨t, s₁, hpeek, hread⟩ := outcome_bind_eq_ok.mp hread
  obtain ⟨hscan, hlooked⟩ := hs.of_peek hpeek
  split at hread
  · rename_i hclass
    have hclass : classOf? t = some .pattern := beq_iff_eq.mp hclass
    obtain ⟨_, s₂, hnext, hread⟩ := outcome_bind_eq_ok.mp hread
    obtain ⟨t', hscan', rfl⟩ := (hlooked.regular hs).of_discard_next hnext
    rw [hscan] at hscan'
    cases hscan'
    obtain ⟨p, s₃, hpattern, hread⟩ := outcome_bind_eq_ok.mp hread
    cases hread
    obtain rfl := of_patternOf hpattern
    exact ⟨t, hlooked.append (.one hscan (kind_ne_of_classOf? hclass)), .pattern hclass hpattern⟩
  · cases hread
    exact hlooked

theorem arguments_succ (h : Faithful fuel) {f : Builtin} {ps : List Parameter} {as : List Argument} (hs : s.Regular)
    (hread : outcome (Script.arguments (fuel + 1) t f ps) s = (.ok as, s')) :
    ∃ ts, s.Takes ts s' ∧ SpellsList s.text ps ts as := by
  have hvalue {p : Parameter} {s s' : TokenStream} {a : Argument} (hs : s.Regular) (hp : p ≠ .buffer)
      (hread : outcome (do
        let v ← Script.fragments [",", ")"] fuel none
        if v.isEmpty then
          let t ← peek
          refuseAt t (.expected "an argument" t.found)
        return Argument.value v) s = (.ok a, s')) : ∃ ts, s.Takes ts s' ∧ SpellsArgument s.text p ts a := by
    obtain ⟨v, s₁, hfragments, hread⟩ := outcome_bind_eq_ok.mp hread
    obtain ⟨qs, hqs⟩ := h.fragments hs hfragments
    split at hread
    · obtain ⟨_, _, -, hread⟩ := outcome_bind_eq_ok.mp hread
      obtain ⟨_, _, hrefused, -⟩ := outcome_bind_eq_ok.mp hread
      cases hrefused
    · rename_i hempty
      cases hread
      have hne : qs ≠ [] := by
        rintro rfl
        exact hempty (by rw [hqs.value]; rfl)
      rw [hqs.value]
      exact ⟨_, hqs.takes, .value hp hne hqs.spelled hqs.goesOn⟩
  cases ps with
  | nil => cases hread
  | cons p ps =>
    have hrest {s₁ : TokenStream} {a : Argument} {ts : List Token} (htakes : s.Takes ts s₁)
        (ha : SpellsArgument s.text p ts a) (hread : outcome (do
          if ← acceptOperator ")" then return [a]
          expectOperator ","
          return a :: (← Script.arguments fuel t f ps)) s₁ = (.ok as, s')) :
        ∃ ts, s.Takes ts s' ∧ SpellsList s.text (p :: ps) ts as := by
      obtain ⟨closed, s₂, haccept, hread⟩ := outcome_bind_eq_ok.mp hread
      rcases (htakes.regular hs).of_acceptOperator haccept with ⟨rfl, closing, hclosing, hclosed⟩ | ⟨rfl, hlooked⟩
      · cases hread
        exact ⟨_, htakes.append hclosed, .last ha hclosing⟩
      · have hs₂ := hlooked.regular (htakes.regular hs)
        obtain ⟨_, s₃, hexpect, hread⟩ := outcome_bind_eq_ok.mp hread
        obtain ⟨comma, hcomma, htaken⟩ := hs₂.of_expectOperator hexpect
        obtain ⟨bs, s₄, harguments, hread⟩ := outcome_bind_eq_ok.mp hread
        cases hread
        obtain ⟨us, hus, hlist⟩ := h.arguments (htaken.regular hs₂) harguments
        rw [htaken.text, hlooked.text, htakes.text] at hlist
        exact ⟨_, htakes.append (hlooked.append (htaken.append hus)), .more ha hcomma hlist⟩
    unfold Script.arguments at hread
    cases p with
    | buffer =>
      obtain ⟨name, s₁, hname, hread⟩ := outcome_bind_eq_ok.mp hread
      obtain ⟨t, htakes, ha⟩ := of_expectBufferName hs hname
      exact hrest htakes ha hread
    | pattern =>
      obtain ⟨found, s₁, haccept, hread⟩ := outcome_bind_eq_ok.mp hread
      have hfound := of_acceptPattern hs haccept
      cases found with
      | some p =>
        obtain ⟨t, htakes, ha⟩ := hfound
        exact hrest htakes ha hread
      | none =>
        obtain ⟨a, s₂, htext, hread⟩ := outcome_bind_eq_ok.mp hread
        obtain ⟨ts, htakes, ha⟩ := hvalue (p := .pattern) (hfound.regular hs) (by decide) htext
        exact hrest (hfound.append htakes) (hfound.text ▸ ha) hread
    | text =>
      obtain ⟨a, s₁, htext, hread⟩ := outcome_bind_eq_ok.mp hread
      obtain ⟨ts, htakes, ha⟩ := hvalue (p := .text) hs (by decide) htext
      exact hrest htakes ha hread

end Faithful

/-- With any number of levels, what is read is what the tokens spell that are taken. -/
theorem faithful_all (fuel : Nat) : Faithful fuel := by
  induction fuel with
  | zero =>
    exact ⟨fun _ h => (by cases h), fun _ h => (by cases h), fun _ _ h => (by cases h), fun _ h => (by cases h)⟩
  | succ fuel ih => exact ⟨ih.fragments_succ, ih.fragment_succ, ih.call_succ, ih.arguments_succ⟩

section Coverage

variable {s s' : TokenStream} {p : Piece} {ps : List Piece} {t : Token}

/-- A piece ends where the stream stands behind its tokens. -/
theorem stop_eq (h : s.Takes p.tokens s') : s'.offset = p.stop := by
  rw [h.offset, Piece.tokens, List.getLast?_cons]
  rfl

/-- Pieces end where the stream stands behind their tokens. -/
theorem offset_eq (h : s.Takes (ps.flatMap Piece.tokens) s') : s'.offset = ps.getLast?.elim s.offset Piece.stop := by
  induction ps generalizing s with
  | nil => exact h.offset
  | cons p ps ih =>
    obtain ⟨s₁, hp, hps⟩ := h.split
    rw [ih hps, stop_eq hp, List.getLast?_cons]
    cases ps.getLast? <;> rfl

theorem gap_stretch (text : String) (n : Nat) (t : Token) :
    ((gap text (some n) t).map ((some n).elim "" (Text.between text · t.column), ·)).flatMap (fun x => x.1.toList) =
      Text.slice text.toList n t.column := by
  unfold gap
  dsimp only
  split
  · rename_i hempty
    rw [← Text.toList_between, String.isEmpty_iff.mp hempty]
    rfl
  · simp

/-- The stretches of pieces make up the text from where a stream stands to where it stands behind them. -/
theorem stretches_cover (hs : s.Regular) (h : s.Takes (ps.flatMap Piece.tokens) s') :
    (stretches s.text (some s.offset) ps).flatMap (fun x => x.1.toList) =
      Text.slice s.text.toList s.offset s'.offset := by
  induction ps generalizing s with
  | nil =>
    have hoffset : s'.offset = s.offset := h.offset
    rw [hoffset, ← List.append_cancel_left_eq (Text.take s.text.toList s.offset),
      Text.take_append_slice _ (Nat.le_refl _)]
    exact List.append_nil _
  | cons p ps ih =>
    obtain ⟨s₁, hp, hps⟩ := h.split
    obtain ⟨hplaces, hstop⟩ := hp.first hs
    have hs₁ := hp.regular hs
    have htail := ih hs₁ hps
    rw [hp.text, stop_eq hp] at htail
    have hcolumn : p.first.column ≤ s₁.offset := Nat.le_trans hplaces.le_stop hstop
    have hboundary : Text.IsBoundary s.text.toList s₁.offset := hp.text ▸ hs₁.boundary
    calc (stretches s.text (some s.offset) (p :: ps)).flatMap (fun x => x.1.toList)
        = Text.slice s.text.toList s.offset p.first.column ++ (Text.slice s.text.toList p.first.column p.stop ++
            Text.slice s.text.toList p.stop s'.offset) := by
          rw [stretches, List.flatMap_append, List.flatMap_cons, htail, Text.toList_between]
          exact congrArg (· ++ _) (gap_stretch _ _ _)
      _ = Text.slice s.text.toList s.offset p.first.column ++ Text.slice s.text.toList p.first.column s'.offset := by
          rw [← stop_eq hp, Text.slice_append_slice hboundary hcolumn (hps.le hs₁)]
      _ = Text.slice s.text.toList s.offset s'.offset :=
          Text.slice_append_slice hplaces.boundary hplaces.behind (Nat.le_trans hcolumn (hps.le hs₁))

/-- The stretches of pieces make up the text from the first token to the end of the last. -/
theorem stretches_cover_tokens (hs : s.Regular) (h : s.Takes (ps.flatMap Piece.tokens) s') :
    (stretches s.text none ps).flatMap (fun x => x.1.toList) =
      Text.slice s.text.toList (ps.head?.elim s'.offset (·.first.column)) s'.offset := by
  cases ps with
  | nil =>
    have hnothing : s'.Takes ([].flatMap Piece.tokens) s' := .nothing (h.regular hs).pending
    have hcover := stretches_cover (h.regular hs) hnothing
    rwa [h.text] at hcover
  | cons p ps =>
    obtain ⟨hplaces, hstop⟩ := h.first hs
    have hcover := stretches_cover hs h
    rw [stretches, List.flatMap_append, gap_stretch, ← Text.slice_append_slice hplaces.boundary hplaces.behind
      (Nat.le_trans hplaces.le_stop hstop)] at hcover
    exact List.append_cancel_left hcover

end Coverage

section Plain

variable {text : String} {ts : List Token} {f : Fragment} {s s' : TokenStream} {ps : List Piece}

/-- A fragment of plain tokens is a single token, and stands for its text. -/
theorem SpellsFragment.of_plain (h : SpellsFragment text ts f) (hplain : ∀ t ∈ ts, t.isPlain = true) :
    ∃ t, ts = [t] ∧ f = .text (.literal t.text) := by
  have hclass {t : Token} {k : SpecialClass} (hk : classOf? t = some k) : t.isPlain = false := by
    unfold classOf? at hk
    unfold Token.isPlain
    split at hk
    · rename_i hkind
      rw [hkind]
    · cases hk
  have hstring {t : Token} {v : String} (hkind : t.kind = .string v) : t.isPlain = false := by
    rw [Token.isPlain, hkind]
  cases h with
  | reference hk => exact absurd (hplain _ (List.mem_singleton_self _)) (by simp [hclass hk])
  | buffer hk => exact absurd (hplain _ (List.mem_singleton_self _)) (by simp [hclass hk])
  | template hkind => exact absurd (hplain _ (List.mem_singleton_self _)) (by simp [hstring hkind])
  | quoted hkind => exact absurd (hplain _ (List.mem_singleton_self _)) (by simp [hstring hkind])
  | plain => exact ⟨_, rfl, rfl⟩
  | call hk => exact absurd (hplain _ List.mem_cons_self) (by simp [hclass hk])

/-- The fragments of plain tokens and of the gaps between them stand for the texts that they cover. -/
theorem woven_of_plain (hs : s.Regular) (h : s.Takes (ps.flatMap Piece.tokens) s')
    (hspelled : ∀ p ∈ ps, SpellsFragment s.text p.tokens p.fragment)
    (hplain : ∀ t ∈ ps.flatMap Piece.tokens, t.isPlain = true) (last : Option Nat) :
    woven s.text last ps = (stretches s.text last ps).map fun x => .text (.literal x.1) := by
  induction ps generalizing s last with
  | nil => rfl
  | cons p ps ih =>
    obtain ⟨s₁, hp, hps⟩ := h.split
    rw [List.flatMap_cons] at hplain
    obtain ⟨hfirst, hrest⟩ := List.forall_mem_append.mp hplain
    obtain ⟨hspell, hspelled⟩ := List.forall_mem_cons.mp hspelled
    obtain ⟨t, htokens, hfragment⟩ := hspell.of_plain hfirst
    obtain ⟨rfl, hmore⟩ := List.cons.inj htokens
    have hstop : p.stop = p.first.stop := by simp [Piece.stop, hmore]
    have htext : Text.between s.text p.first.column p.stop = p.first.text := by
      rw [hstop, Text.between, (hp.first hs).1.slice, String.ofList_toList]
    have htail := ih (hp.regular hs) hps (hp.text ▸ hspelled) hrest (some p.stop)
    rw [hp.text] at htail
    rw [woven_cons, stretches, List.map_append, List.map_cons, htail, htext, hfragment]
    congr 1
    cases last with
    | none => rfl
    | some n =>
      unfold gap
      dsimp only
      split <;> rfl

/-- A value of literal texts comes to these texts. -/
theorem outcome_valueText_literals (texts : List String) (r : RunState) :
    outcome (Run.valueText (texts.map fun x => .text (.literal x))) r =
      (.ok (String.ofList (texts.flatMap String.toList)), r) := by
  induction texts with
  | nil => rfl
  | cons x texts ih =>
    have hfragment : outcome (Run.fragmentText (.text (.literal x))) r = (.ok x, r) := by
      simp [Run.fragmentText, Template.literal, Run.templateText]
    rw [List.map_cons, Run.valueText, outcome_bind, hfragment]
    dsimp only
    rw [outcome_bind, ih]
    simp [String.ofList_append]

/-- Pieces of plain tokens come to the text from the first token to the end of the last. -/
theorem outcome_woven_of_plain (hs : s.Regular) (h : s.Takes (ps.flatMap Piece.tokens) s')
    (hspelled : ∀ p ∈ ps, SpellsFragment s.text p.tokens p.fragment)
    (hplain : ∀ t ∈ ps.flatMap Piece.tokens, t.isPlain = true) (r : RunState) :
    outcome (Run.valueText (woven s.text none ps)) r =
      (.ok (Text.between s.text (ps.head?.elim s'.offset (·.first.column)) s'.offset), r) := by
  have hmap : woven s.text none ps = ((stretches s.text none ps).map Prod.fst).map fun x => .text (.literal x) := by
    rw [woven_of_plain hs h hspelled hplain, List.map_map]
    rfl
  rw [hmap, outcome_valueText_literals, List.flatMap_map, stretches_cover_tokens hs h]
  rfl

end Plain

/-- Values keep the text that they are read from. A value that is read takes the tokens of its fragments one after
another, the arguments of a call among them, up to the first token behind a fragment that is the end of the statement
or one of the stops; these tokens spell the text with white space between them. The texts of the fragments and of the
gaps between them, in the order of the value, make up the text from the first token to the end of the last. If the
tokens are numbers, words, operators and characters that start no other token, then the value comes to that text. -/
theorem values_cover_text {stops : List String} {s s' : TokenStream} {v : Value} (hs : s.Regular)
    (h : outcome (value stops) s = (.ok v, s')) : ∃ ps, ReadsValue stops none s ps v s' ∧
      Token.Spells s.offset s.rest (ps.flatMap Piece.tokens) s'.rest ∧
      s'.offset = ps.getLast?.elim s.offset Piece.stop ∧
      let start := ps.head?.elim s'.offset (·.first.column)
      (stretches s.text none ps).flatMap (fun x => x.1.toList) = Text.slice s.text.toList start s'.offset ∧
      ((∀ t ∈ ps.flatMap Piece.tokens, t.isPlain = true) →
        ∀ r, outcome (Run.valueText v) r = (.ok (Text.between s.text start s'.offset), r)) := by
  obtain ⟨_, _, hget, hread⟩ := outcome_bind_eq_ok.mp h
  cases hget
  obtain ⟨ps, hps⟩ := (faithful_all _).fragments hs hread
  refine ⟨ps, hps, hps.takes.spells hs, offset_eq hps.takes, stretches_cover_tokens hs hps.takes, fun hplain r => ?_⟩
  rw [hps.value]
  exact outcome_woven_of_plain hs hps.takes hps.spelled hplain r

theorem values_cover_text_with_call :
    let s := lineStream "s" 1 "1  string.piece($(x), 2  3, 1) + := 4"
    s.Regular ∧ ∃ v s', outcome (value [":="]) s = (.ok v, s') ∧ v.length = 5 ∧
      ∃ ps, ReadsValue [":="] none s ps v s' ∧ s'.offset = ps.getLast?.elim s.offset Piece.stop := by
  intro s
  have hs : s.Regular := TokenStream.regular_lineStream _ _ _
  have hlength : (outcome (value [":="]) s).1.toOption.map List.length = some 5 := by
    decide +kernel
  cases hread : outcome (value [":="]) s with
  | mk result s' =>
    rw [hread] at hlength
    cases result with
    | error e => cases hlength
    | ok v =>
      obtain ⟨ps, hps, -, hoffset, -⟩ := values_cover_text hs hread
      exact ⟨hs, v, s', rfl, Option.some.inj hlength, ps, hps, hoffset⟩

end Script

end LineScript
