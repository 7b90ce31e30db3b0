import LineScript.Proofs.Run.Linked
import LineScript.Proofs.Run.Loaded
import LineScript.Proofs.Run.Outcomes
import LineScript.Proofs.Run.Statement
import LineScript.Proofs.Script.Alone
import Mathlib

/-! Running a program with its jumps and running its tree of blocks go on in lockstep. -/
namespace LineScript

/-- Whether a script that runs by its program also runs as a tree. -/
structure SameScript (a : Activation) (f : Focus) : Prop where
  script : a.script = f.script
  linked : Linked a.program f.script.index f.tree f.blocks
  ordered : a.program.jumps.Ordered
  genuine : f.script.Genuine

/-- Whether a script that waits for a call also waits as a tree. -/
def Waits (a : Activation) (f : Focus) : Prop :=
  SameScript a f ∧ ∃ l rest, f.tree = .plain l rest

/-- Whether a machine that runs programs and one that runs trees do the same. -/
structure SameRun (m : Machine) (t : TreeMachine) : Prop where
  engine : m.engine = t.engine
  sound : t.engine.Sound
  active : SameScript m.active t.active
  callers : List.Forall₂ Waits m.callers t.callers

/-- Whether two machines go on doing the same, or have both ended the same way. -/
def Progress.Same : Progress → TreeProgress → Prop
  | .running m, .running t => SameRun m t
  | .ended e s r, .ended e' s' r' => e = e' ∧ s = s' ∧ r = r'
  | _, _ => False

namespace SameScript

variable {a : Activation} {f : Focus}

/-- Both are at the same line. -/
theorem current? (h : SameScript a f) : a.current? = f.current? := by
  have hl := h.linked
  rw [Activation.current?, h.script]
  unfold Focus.current?
  split
  · rename_i htree hblocks
    rw [htree, hblocks] at hl
    have hend : a.program.statements.length = f.script.index := hl.around
    rw [List.getElem?_eq_none (Nat.le_of_eq hend)]
  · rename_i htree hblocks
    rw [htree, hblocks] at hl
    exact hl.done.1.line
  all_goals
    rename_i htree
    rw [htree] at hl
  · exact hl.blank.1
  · exact hl.plain.1
  · exact hl.leave.1
  · exact hl.embedded.1
  · exact hl.ifThen.1
  · exact hl.ifElse.1
  · exact hl.loop.1

theorem blame (h : SameScript a f) (e : Error) : a.blame e = f.blame e := by
  have hplace (l : Located) : a.placeOf l = ⟨f.script.name, l.line, l.column⟩ := by
    rw [Activation.placeOf, h.script]
  unfold Activation.blame Focus.blame
  rw [h.current?]
  match f.current? with
  | none => rfl
  | some none => rfl
  | some (some l) => exact congrArg e.located (hplace l)

theorem goTo (h : SameScript a f) {s : TreeSpot} {blocks : List OpenBlock}
    (hs : Linked a.program s.index s.tree blocks) : SameScript (a.goTo s.index) (f.goTo s blocks) :=
  ⟨by simp only [Activation.goTo, Focus.goTo, h.script], hs, h.ordered, h.genuine⟩

end SameScript

/-- A script at its first line is also at the start of its tree. -/
theorem SameScript.start {a : Activation}
    (hcheck : Program.check a.script.name a.script.lines a.script.offset = .ok a.program)
    (hgenuine : a.script.Genuine) (hindex : a.script.index = 0) : SameScript a (.start a) := by
  obtain ⟨-, t, htree, hnested, hjumps⟩ := Program.exists_nested_of_check hcheck
  have hread : BlockTree.ofLines a.program.statements = t := by
    rw [← htree, BlockTree.ofLines_lines hnested]
  refine ⟨rfl, ?_, ?_, hgenuine⟩
  · simp only [Focus.start, hread, hindex]
    refine ⟨⟨hnested, ?_, ?_, ?_⟩, ?_⟩
    · have hlines : a.program.statements.drop 0 = t.lines := by rw [htree, List.drop_zero]
      exact hlines ▸ List.prefix_rfl
    · rw [hjumps]
      exact List.Subset.refl _
    · rw [hjumps]
      exact List.Subset.refl _
    · rw [Nat.zero_add, BlockTree.size, htree]
      rfl
  · have hnested' : t.Nested ([] : List Nat).length := hnested
    rw [hjumps]
    exact ⟨BlockTree.ascending_ifTargets hnested 0, BlockTree.ascending_blockTargets hnested' 0⟩

/-- Ending the innermost script is the same for both. -/
theorem same_unwind {callers : List Activation} {focuses : List Focus}
    (h : List.Forall₂ Waits callers focuses) {e : Engine} (he : e.Sound) {s : Script} (hs : s.Genuine)
    (r : Except Error Outcome) :
    Progress.Same (Machine.unwind e s r callers) (TreeMachine.unwind e s r focuses) := by
  induction h generalizing e s r with
  | nil => exact ⟨rfl, rfl, rfl⟩
  | @cons a f callers focuses hwaits htail ih =>
    obtain ⟨hsame, l, rest, htree⟩ := hwaits
    have hleave := he.leave hs
    match r with
    | .ok (.finished code) =>
      rw [Machine.unwind, TreeMachine.unwind]
      have hlinked := hsame.linked
      rw [htree] at hlinked
      refine ⟨rfl, hleave, ?_, htail⟩
      have hgo := hsame.goTo (s := ⟨f.script.index + 1, rest⟩) hlinked.plain.2.2
      simpa only [Focus.behindCall, htree, hsame.script] using hgo
    | .ok (.aborted code) =>
      rw [Machine.unwind, TreeMachine.unwind, hsame.script]
      exact ih hleave hsame.genuine _
    | .error err =>
      rw [Machine.unwind, TreeMachine.unwind, hsame.script, hsame.blame]
      exact ih hleave hsame.genuine _

theorem Machine.call_eq (m : Machine) (l : Located) (name : String) (ps : List (String × String)) :
    m.call l name ps =
      match outcome (Engine.enter ⟨l.line, m.active.script.directory?⟩ name ps) m.engine with
      | (.ok a, engine) => .running ⟨engine, a, m.active :: m.callers⟩
      | (.error e, engine) => finish { m with engine } (.error (e.located (m.active.placeOf l))) :=
  rfl

namespace SameRun

variable {m : Machine} {t : TreeMachine}

theorem finish (h : SameRun m t) (r : Except Error Outcome) :
    Progress.Same (m.finish r) (t.finish r) := by
  rw [Machine.finish, TreeMachine.finish, h.engine, h.active.script]
  exact same_unwind h.callers h.sound h.active.genuine r

theorem fail (h : SameRun m t) (l : Located) (e : Error) :
    Progress.Same (m.finish (.error (e.located (m.active.placeOf l)))) (t.fail l e) := by
  rw [TreeMachine.fail, Activation.placeOf, h.active.script]
  exact h.finish _

theorem goTo (h : SameRun m t) {s : TreeSpot} {blocks : List OpenBlock}
    (hs : Linked m.active.program s.index s.tree blocks) :
    Progress.Same (.running (m.goTo s.index)) (t.goTo s blocks) :=
  ⟨h.engine, h.sound, h.active.goTo hs, h.callers⟩

theorem announce (h : SameRun m t) (l : Located) : SameRun (m.announce l) (t.announce l) := by
  refine ⟨?_, ⟨h.sound.unlimited, h.sound.genuine⟩, h.active, h.callers⟩
  simp only [Machine.announce, TreeMachine.announce, h.engine, h.active.script]

theorem call (h : SameRun m t) (l : Located) (name : String) (ps : List (String × String))
    (htree : ∃ l rest, t.active.tree = .plain l rest) :
    Progress.Same (m.call l name ps) (t.call l name ps) := by
  rw [Machine.call_eq, TreeMachine.call, h.engine, h.active.script]
  obtain ⟨hsound, hstarted⟩ := Engine.keeps_enter ⟨l.line, t.active.script.directory?⟩ name ps _ h.sound
  cases houtcome : outcome (Engine.enter ⟨l.line, t.active.script.directory?⟩ name ps) t.engine with
  | mk r e =>
    rw [houtcome] at hsound hstarted
    cases r with
    | ok a =>
      obtain ⟨hprogram, hgenuine, hindex⟩ := hstarted a rfl
      have hstart := SameScript.start (hgenuine _ hprogram) hgenuine hindex
      exact ⟨rfl, hsound, hstart, .cons ⟨h.active, htree⟩ h.callers⟩
    | error err =>
      have hsame : SameRun { m with engine := e } { t with engine := e } :=
        ⟨rfl, hsound, h.active, h.callers⟩
      exact hsame.fail l err

end SameRun

/-- How a script goes on behind what a line does; `callers` wait for it. -/
def Machine.proceed (callers : List Activation) (l : Located) (o : Except Error Flow × RunState) :
    Progress :=
  let m : Machine := ⟨o.2.engine, o.2.active, callers⟩
  match o.1 with
  | .error e => m.finish (.error (e.located (m.active.placeOf l)))
  | .ok .next => .running (m.goTo (m.active.script.index + 1))
  | .ok (.jump t) => .running (m.goTo t)
  | .ok (.finish code) => m.finish (.ok (.finished code))
  | .ok (.abort code) => m.finish (.ok (.aborted code))
  | .ok (.call name parameters) => m.call l name parameters

theorem Machine.proceed_call (callers : List Activation) (l : Located) (name : String)
    (ps : List (String × String)) (s : RunState) :
    proceed callers l (.ok (.call name ps), s) = call ⟨s.engine, s.active, callers⟩ l name ps :=
  rfl

theorem Machine.step_eq {m : Machine} {l : Located} (h : m.active.current? = some (some l)) :
    m.step =
      proceed m.callers l
        (outcome (Run.execute l.text l.statement) ⟨m.active, (m.announce l).engine⟩) := by
  rw [step, h]
  rfl

/-- What some work leaves as it was. -/
structure Focus.Stays (f f' : Focus) : Prop where
  index : f'.script.index = f.script.index
  tree : f'.tree = f.tree
  blocks : f'.blocks = f.blocks

namespace SameRun

variable {m : Machine} {t : TreeMachine}

/-- Steady work is the same for both, and leaves both where they were. -/
theorem work {α : Type} (h : SameRun m t) {x : Run α} (hx : Run.Steady x) (l : Located)
    {k : α → Run Flow} {go : α → TreeMachine → TreeProgress}
    (hgo : ∀ r m' t', (∃ s s', outcome x s = (.ok r, s')) → SameRun m' t' →
      m'.active.program = m.active.program → t.active.Stays t'.active →
      Progress.Same (Machine.proceed m'.callers l (outcome (k r) ⟨m'.active, m'.engine⟩)) (go r t')) :
    Progress.Same (Machine.proceed m.callers l (outcome (x >>= k) ⟨m.active, m.engine⟩))
      (t.work l x go) := by
  rw [outcome_bind, hx.outcome_eq, h.active.script, h.engine, TreeMachine.work]
  have hself := hx.under_self ⟨{ script := t.active.script, program := {} }, t.engine⟩
  cases ho : outcome x ⟨{ script := t.active.script, program := {} }, t.engine⟩ with
  | mk r s =>
    rw [ho] at hself
    simp only at hself
    let m' : Machine :=
      ⟨s.engine, { m.active with script := s.active.script }, m.callers⟩
    let t' : TreeMachine :=
      { t with engine := s.engine, active := { t.active with script := s.active.script } }
    have hindex : s.active.script.index = t.active.script.index := by
      rw [← hself]
      rfl
    have hgenuine : s.active.script.Genuine := by
      rw [← hself]
      exact h.active.genuine
    have hsound : s.engine.Sound := by
      rw [← hself]
      exact ⟨h.sound.unlimited, h.sound.genuine⟩
    have hsame : SameRun m' t' := by
      refine ⟨rfl, hsound, ⟨rfl, ?_, h.active.ordered, hgenuine⟩, h.callers⟩
      simp only [m', t', hindex]
      exact h.active.linked
    cases r with
    | error e => exact hsame.fail l e
    | ok a => exact hgo a m' t' ⟨_, s, ho⟩ hsame rfl ⟨hindex, rfl, rfl⟩

/-- The counts of loops do not matter. -/
theorem loops (h : SameRun m t) (loops : LoopCounts) :
    SameRun { m with active := { m.active with loops } } t :=
  ⟨h.engine, h.sound, ⟨h.active.script, h.active.linked, h.active.ordered, h.active.genuine⟩, h.callers⟩

end SameRun

/-- A jump that is recorded is taken. -/
theorem outcome_jumpBy {table : JumpTable → Targets} {s : RunState} {target : Nat}
    (hordered : (table s.active.program.jumps).Ascending)
    (h : (s.active.script.index, target) ∈ table s.active.program.jumps) :
    outcome (Run.jumpBy table) s = (.ok (.jump target), s) := by
  have hlookup := hordered.lookup_of_mem h
  have htarget : JumpTable.target (table s.active.program.jumps) s.active.script.index = .ok target := by
    rw [JumpTable.target, hlookup]
  rw [Run.outcome_jumpBy_eq, htarget]
  rfl

/-- A statement that belongs to no block does not jump. -/
theorem not_jump_of_plain {text : String} {statement : Statement} (h : statement.isPlain = true)
    {s s' : RunState} {target : Nat} :
    outcome (Run.execute text statement) s ≠ (.ok (.jump target), s') := by
  intro hout
  cases statement with
  | exit abort code =>
    obtain ⟨code, _, -, hout⟩ := outcome_bind_eq_ok.mp hout
    cases abort <;> cases hout
  | stop code =>
    obtain ⟨code, _, -, hout⟩ := outcome_bind_eq_ok.mp hout
    cases hout
  | call name ps =>
    obtain ⟨name, s₁, -, hout⟩ := outcome_bind_eq_ok.mp hout
    match ps with
    | .none => cases hout
    | .pairs ps =>
      obtain ⟨_, _, -, hout⟩ := outcome_bind_eq_ok.mp hout
      cases hout
    | .buffer b =>
      obtain ⟨b, _, -, hout⟩ := outcome_bind_eq_ok.mp hout
      split at hout <;> cases hout
  | ifTest | elseWord | endIf | whileTest | endWhile | leave | script | endScript => cases h
  | _ =>
    obtain ⟨_, _, -, hout⟩ := outcome_bind_eq_ok.mp hout
    cases hout

/-- A jump of both to the same place. -/
theorem SameRun.proceed_jump {m : Machine} {t : TreeMachine} (h : SameRun m t) (l : Located)
    {s : TreeSpot} {blocks : List OpenBlock} (hs : Linked m.active.program s.index s.tree blocks) :
    Progress.Same (Machine.proceed m.callers l (.ok (.jump s.index), ⟨m.active, m.engine⟩))
      (t.goTo s blocks) :=
  h.goTo hs

theorem SameRun.proceed_next {m : Machine} {t : TreeMachine} (h : SameRun m t) (l : Located)
    {s : TreeSpot} {blocks : List OpenBlock} (hindex : s.index = t.active.script.index + 1)
    (hs : Linked m.active.program s.index s.tree blocks) :
    Progress.Same (Machine.proceed m.callers l (.ok .next, ⟨m.active, m.engine⟩))
      (t.goTo s blocks) := by
  have hgo := h.goTo hs
  rw [hindex, ← h.active.script] at hgo
  exact hgo

namespace SameRun

variable {m : Machine} {t : TreeMachine}

/-- A test leads both into its block, or both past it. -/
theorem step_choose (h : SameRun m t) (table : JumpTable → Targets) {l : Located} {test : Test}
    {k : Bool → Run Flow} {inside other : TreeSpot} {block : OpenBlock} {blocks : List OpenBlock}
    (htrue : ∀ m' t', SameRun m' t' → ∃ loops,
      outcome (k true) ⟨m'.active, m'.engine⟩ = (.ok .next, ⟨{ m'.active with loops }, m'.engine⟩))
    (hfalse : ∀ a : Activation, ∃ loops, ∀ e,
      outcome (k false) ⟨a, e⟩ = outcome (Run.jumpBy table) ⟨{ a with loops }, e⟩)
    (hordered : (table m.active.program.jumps).Ascending)
    (hinside : Linked m.active.program inside.index inside.tree (block :: t.active.blocks))
    (hindex : inside.index = t.active.script.index + 1)
    (hother : Linked m.active.program other.index other.tree (blocks ++ t.active.blocks))
    (hjump : (t.active.script.index, other.index) ∈ table m.active.program.jumps) :
    Progress.Same
      (Machine.proceed m.callers l (outcome (Run.testHolds test >>= k) ⟨m.active, m.engine⟩))
      (t.work l (Run.testHolds test) (TreeMachine.choose inside block other blocks)) := by
  refine h.work (Run.Steady.testHolds test) l fun holds m' t' _ h' hprogram hstays => ?_
  rw [TreeMachine.choose, hstays.blocks]
  rw [← hprogram] at hordered hinside hother hjump
  rw [← hstays.index] at hindex hjump
  cases holds with
  | true =>
    obtain ⟨loops, hk⟩ := htrue m' t' h'
    rw [hk]
    exact (h'.loops loops).proceed_next l hindex hinside
  | false =>
    obtain ⟨loops, hk⟩ := hfalse m'.active
    rw [← h'.active.script] at hjump
    rw [hk, outcome_jumpBy hordered hjump]
    exact (h'.loops loops).proceed_jump l hother

theorem step_ifThen (h : SameRun m t) {head closer : Located} {test : Test} {body rest : BlockTree}
    (ht : t.active.tree = .ifThen head test body closer rest) :
    Progress.Same m.step t.step := by
  have hl := h.active.linked
  rw [ht] at hl
  obtain ⟨hline, hhead, hbody, hrest, hjump⟩ := hl.ifThen
  rw [Machine.step_eq (h.active.current?.trans (by rw [Focus.current?, ht])), hhead,
    TreeMachine.step, ht]
  exact (h.announce head).step_choose (·.ifTargets) (fun m' _ _ => ⟨m'.active.loops, rfl⟩)
    (fun a => ⟨a.loops, fun _ => rfl⟩) h.active.ordered.1 hbody rfl hrest hjump

theorem step_ifElse (h : SameRun m t) {head middle closer : Located} {test : Test}
    {body other rest : BlockTree}
    (ht : t.active.tree = .ifElse head test body middle other closer rest) :
    Progress.Same m.step t.step := by
  have hl := h.active.linked
  rw [ht] at hl
  obtain ⟨hline, hhead, hbody, hother, hjump⟩ := hl.ifElse
  rw [Machine.step_eq (h.active.current?.trans (by rw [Focus.current?, ht])), hhead,
    TreeMachine.step, ht]
  exact (h.announce head).step_choose (·.ifTargets) (fun m' _ _ => ⟨m'.active.loops, rfl⟩)
    (fun a => ⟨a.loops, fun _ => rfl⟩) h.active.ordered.1 hbody rfl hother hjump

/-- Without a limit, entering a loop only counts. -/
theorem outcome_enterLoop (h : SameRun m t) :
    ∃ loops, outcome (Run.enterLoop >>= fun _ => pure Flow.next) ⟨m.active, m.engine⟩ =
      (.ok .next, ⟨{ m.active with loops }, m.engine⟩) := by
  refine ⟨m.active.loops.enter m.active.script.index, ?_⟩
  have hlimit : m.engine.config.loopLimit = none := h.engine ▸ h.sound.unlimited
  rw [outcome_bind, Run.outcome_enterLoop, hlimit]
  rfl

theorem step_loop (h : SameRun m t) {head closer : Located} {test : Test} {body rest : BlockTree}
    (ht : t.active.tree = .loop head test body closer rest) : Progress.Same m.step t.step := by
  have hl := h.active.linked
  rw [ht] at hl
  obtain ⟨hline, hhead, hbody, hrest, hjump⟩ := hl.loop
  rw [Machine.step_eq (h.active.current?.trans (by rw [Focus.current?, ht])), hhead,
    TreeMachine.step, ht]
  exact (h.announce head).step_choose (·.blockTargets) (fun _ _ h' => h'.outcome_enterLoop)
    (fun a => ⟨a.loops.close a.script.index, fun _ => rfl⟩) h.active.ordered.2 hbody rfl hrest hjump

theorem step_plain (h : SameRun m t) {l : Located} {rest : BlockTree}
    (ht : t.active.tree = .plain l rest) : Progress.Same m.step t.step := by
  have hl := h.active.linked
  rw [ht] at hl
  obtain ⟨hline, hplain, hrest⟩ := hl.plain
  rw [Machine.step_eq (h.active.current?.trans (by rw [Focus.current?, ht])), TreeMachine.step, ht,
    ← bind_pure (Run.execute l.text l.statement)]
  refine (h.announce l).work (Run.Steady.execute l.text hplain) l
    fun flow m' t' hflow h' hprogram hstays => ?_
  match flow with
  | .next =>
    refine h'.proceed_next l ?_ ?_
    · exact congrArg (· + 1) hstays.index.symm
    · rw [hprogram, hstays.blocks]
      exact hrest
  | .jump target =>
    obtain ⟨s, s', hflow⟩ := hflow
    exact absurd hflow (not_jump_of_plain hplain)
  | .finish code => exact h'.finish _
  | .abort code => exact h'.finish _
  | .call name ps => exact h'.call l name ps ⟨l, rest, hstays.tree.trans ht⟩

theorem step_leave (h : SameRun m t) {l : Located} {levels : Nat} {condition : Option Test}
    {rest : BlockTree} (ht : t.active.tree = .leave l levels condition rest) :
    Progress.Same m.step t.step := by
  have hl := h.active.linked
  rw [ht] at hl
  obtain ⟨hline, hleave, hrest, b, outer, hdrop, hexit, hjump⟩ := hl.leave
  rw [Machine.step_eq (h.active.current?.trans (by rw [Focus.current?, ht])), hleave,
    TreeMachine.step, ht]
  have hsteady : Run.Steady (condition.elim (pure true) Run.testHolds) := by
    cases condition with
    | none => exact .pure true
    | some test => exact .testHolds test
  rw [Run.execute_leave]
  refine (h.announce l).work hsteady l fun leaves m' t' _ h' hprogram hstays => ?_
  have hdrop' : t'.active.blocks.drop (levels - 1) = b :: outer := by
    rw [hstays.blocks]
    exact hdrop
  cases leaves with
  | false =>
    refine h'.proceed_next l ?_ ?_
    · exact congrArg (· + 1) hstays.index.symm
    · rw [hprogram, hstays.blocks]
      exact hrest
  | true =>
    have htarget : JumpTable.target m'.active.program.jumps.blockTargets m'.active.script.index =
        .ok b.exit.index := by
      have hmem : (m'.active.script.index, b.exit.index) ∈ m'.active.program.jumps.blockTargets := by
        rw [hprogram, h'.active.script, hstays.index]
        exact hjump
      rw [JumpTable.target, h'.active.ordered.2.lookup_of_mem hmem]
    have hleft := Run.outcome_leaveLoops (s := ⟨m'.active, m'.engine⟩) htarget
    have hout : TreeMachine.leave levels ⟨t.active.script.index + 1, rest⟩ true t' =
        t'.goTo b.exit outer := by
      simp only [TreeMachine.leave, hdrop']
    have hprogram' : m'.active.program = m.active.program := hprogram
    rw [← hprogram'] at hexit
    simp only [Bool.not_true, Bool.false_eq_true, if_false]
    rw [hleft, hout]
    exact (h'.loops _).proceed_jump l hexit

theorem step_embedded (h : SameRun m t) {l closer : Located} {skipped : Nat} {rest : BlockTree}
    (ht : t.active.tree = .embedded l skipped closer rest) : Progress.Same m.step t.step := by
  have hl := h.active.linked
  rw [ht] at hl
  obtain ⟨hline, ⟨name, hscript⟩, hrest, hjump⟩ := hl.embedded
  rw [Machine.step_eq (h.active.current?.trans (by rw [Focus.current?, ht])), hscript,
    TreeMachine.step, ht]
  have hmem : (m.active.script.index, t.active.script.index + skipped + 2) ∈
      m.active.program.jumps.blockTargets := by
    rw [h.active.script]
    exact hjump
  have hexecute : Run.execute l.text (.script name) = Run.jumpBy (·.blockTargets) := rfl
  rw [hexecute, outcome_jumpBy h.active.ordered.2 hmem]
  exact (h.announce l).proceed_jump l (s := ⟨_, rest⟩) hrest

/-- What closes a part of a block leads both to what comes next. -/
theorem proceed_closer (h : SameRun m t) {b : OpenBlock} {blocks : List OpenBlock}
    (hb : b.ClosesAt m.active.program t.active.script.index)
    (hnext : Linked m.active.program b.next.index b.next.tree blocks) :
    Progress.Same
      (Machine.proceed m.callers b.closer
        (outcome (Run.execute b.closer.text b.closer.statement) ⟨m.active, m.engine⟩))
      (t.goTo b.next blocks) := by
  rcases hb.leads with ⟨hend, hindex⟩ | ⟨hjumps, hmem⟩
  · rw [hend]
    exact h.proceed_next b.closer hindex hnext
  · rw [← h.active.script] at hmem
    have hexecute : Run.execute b.closer.text b.closer.statement = Run.jumpBy (·.blockTargets) := by
      rcases hjumps with hjumps | hjumps <;> rw [hjumps] <;> rfl
    rw [hexecute, outcome_jumpBy h.active.ordered.2 hmem]
    exact h.proceed_jump b.closer hnext

theorem step_done (h : SameRun m t) (ht : t.active.tree = .done) : Progress.Same m.step t.step := by
  have hl := h.active.linked
  rw [ht] at hl
  have hcurrent := h.active.current?
  rw [TreeMachine.step, ht]
  cases hblocks : t.active.blocks with
  | nil =>
    rw [Focus.current?, ht, hblocks] at hcurrent
    rw [Machine.step, hcurrent]
    exact h.finish _
  | cons b blocks =>
    rw [Focus.current?, ht, hblocks] at hcurrent
    rw [hblocks] at hl
    rw [Machine.step_eq hcurrent]
    exact (h.announce b.closer).proceed_closer hl.done.1 hl.done.2

theorem step_blank (h : SameRun m t) {rest : BlockTree} (ht : t.active.tree = .blank rest) :
    Progress.Same m.step t.step := by
  have hl := h.active.linked
  rw [ht] at hl
  obtain ⟨hline, hrest⟩ := hl.blank
  have hcurrent : m.active.current? = some none := h.active.current?.trans (by rw [Focus.current?, ht])
  rw [Machine.step, hcurrent, TreeMachine.step, ht, h.active.script]
  exact h.goTo (s := ⟨_, rest⟩) hrest

/-- Whatever the tree is, both machines take the same step. -/
theorem step (h : SameRun m t) : Progress.Same m.step t.step := by
  cases ht : t.active.tree with
  | done => exact h.step_done ht
  | blank rest => exact h.step_blank ht
  | plain l rest => exact h.step_plain ht
  | leave l levels condition rest => exact h.step_leave ht
  | embedded l skipped closer rest => exact h.step_embedded ht
  | ifThen head test body closer rest => exact h.step_ifThen ht
  | ifElse head test body middle other closer rest => exact h.step_ifElse ht
  | loop head test body closer rest => exact h.step_loop ht

end SameRun

theorem scripts_of_waits {callers : List Activation} {focuses : List Focus}
    (h : List.Forall₂ Waits callers focuses) :
    callers.map (·.script) = focuses.map (·.script) := by
  induction h with
  | nil => rfl
  | cons hwaits _ ih => rw [List.map_cons, List.map_cons, hwaits.1.script, ih]

namespace Progress

variable {p : Progress} {q : TreeProgress}

theorem Same.next (h : p.Same q) : p.next.Same q.next := by
  cases p with
  | running m =>
    cases q with
    | running t => exact SameRun.step h
    | ended => exact h.elim
  | ended e s r =>
    cases q with
    | running t => exact h.elim
    | ended e' s' r' => exact h

/-- However many steps are taken, both machines do the same. -/
theorem Same.iterate (h : p.Same q) (n : Nat) :
    Progress.Same (Nat.iterate Progress.next n p) (Nat.iterate TreeProgress.next n q) := by
  induction n generalizing p q with
  | zero => exact h
  | succ n ih => exact ih h.next

theorem Same.agrees (h : p.Same q) : p.Agrees q := by
  cases p with
  | running m =>
    cases q with
    | running t =>
      obtain ⟨hengine, -, hactive, hcallers⟩ := h
      exact ⟨hengine, hactive.script, scripts_of_waits hcallers, hactive.current?⟩
    | ended => exact h.elim
  | ended e s r =>
    cases q with
    | running t => exact h.elim
    | ended e' s' r' => exact h

end Progress

theorem SameRun.run_eq {m : Machine} {t : TreeMachine} (h : SameRun m t) (fuel : Nat) :
    Machine.run fuel m = TreeMachine.run fuel t := by
  induction fuel generalizing m t with
  | zero => rfl
  | succ fuel ih =>
    have hstep := h.step
    rw [Machine.run, TreeMachine.run]
    cases hm : m.step with
    | running m' =>
      cases ht : t.step with
      | running t' =>
        rw [hm, ht] at hstep
        exact ih hstep
      | ended e s r =>
        rw [hm, ht] at hstep
        exact hstep.elim
    | ended e s r =>
      cases ht : t.step with
      | running t' =>
        rw [hm, ht] at hstep
        exact hstep.elim
      | ended e' s' r' =>
        rw [hm, ht] at hstep
        obtain ⟨rfl, rfl, rfl⟩ := hstep
        rfl

/-- The lines of an accepted script spell a nested tree of blocks. Running the program of the script with
its jumps and running the tree take the same steps, with the same state at every line, and end the same
way or not at all. -/
theorem Machine.agrees_with_tree {a : Activation} {e : Engine}
    (hcheck : Program.check a.script.name a.script.lines a.script.offset = .ok a.program)
    (hgenuine : a.script.Genuine) (hindex : a.script.index = 0) (he : e.Sound) :
    (∃ t : BlockTree, t.lines = a.program.statements ∧ t.Nested 0 ∧ (Focus.start a).tree = t) ∧
      (∀ n, Progress.Agrees (Nat.iterate Progress.next n (.running ⟨e, a, []⟩))
        (Nat.iterate TreeProgress.next n (.running ⟨e, .start a, []⟩))) ∧
      ∀ fuel, Machine.run fuel ⟨e, a, []⟩ = TreeMachine.run fuel ⟨e, .start a, []⟩ := by
  have hsame : SameRun ⟨e, a, []⟩ ⟨e, .start a, []⟩ :=
    ⟨rfl, he, .start hcheck hgenuine hindex, .nil⟩
  have hrunning : Progress.Same (.running ⟨e, a, []⟩) (.running ⟨e, .start a, []⟩) := hsame
  refine ⟨?_, fun n => (hrunning.iterate n).agrees, hsame.run_eq⟩
  obtain ⟨-, t, htree, hnested, -⟩ := Program.exists_nested_of_check hcheck
  refine ⟨t, htree, hnested, ?_⟩
  rw [Focus.start, ← htree, BlockTree.ofLines_lines hnested]

theorem Machine.agrees_with_tree_loop :
    let lines := ["while found", "leave", "endwhile"]
    ∃ p, Program.check "count" lines 0 = .ok p ∧
      ∀ fuel, Machine.run fuel ⟨{}, { script := { name := "count", lines }, program := p }, []⟩ =
        TreeMachine.run fuel
          ⟨{}, .start { script := { name := "count", lines }, program := p }, []⟩ := by
  have hcheck : Program.check "count" ["while found", "leave", "endwhile"] 0 =
      .ok { statements :=
              [some ⟨1, 1, "while found", .whileTest ⟨false, .found⟩⟩,
                some ⟨2, 1, "leave", .leave 1 none⟩, some ⟨3, 1, "endwhile", .endWhile⟩]
            jumps := ⟨[], [(0, 3), (1, 3), (2, 0)]⟩ } := by cbv
  have hsound : Engine.Sound {} := ⟨rfl, fun _ h => absurd h List.not_mem_nil⟩
  have hagrees := Machine.agrees_with_tree
    (a := { script := { name := "count", lines := ["while found", "leave", "endwhile"] }, program := _ })
    hcheck (Engine.genuine_of_unchecked rfl) rfl hsound
  exact ⟨_, hcheck, hagrees.2.2⟩

end LineScript
