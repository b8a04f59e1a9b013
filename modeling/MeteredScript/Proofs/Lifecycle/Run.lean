import MeteredScript.Proofs.Lifecycle.Tracked
import MeteredScript.Proofs.Task

/-!
# Whole runs of generators

`Evaluator.tracking` evaluates and keeps a list of the generators that it is
resuming. Before each operation it compares the list with the generators that
are running, and sounds an alarm if they differ. That it does what an evaluator
does which keeps no list is the main result of this module, and everything that
is said about the lives of generators follows from it.
-/

namespace MeteredScript

open Coupling GeneratorState

variable {active : List GeneratorId} {ev ev' : Evaluator} {id : GeneratorId}

/-! ## Resuming -/

/-- Where a generator is in its life when its body was run and gave a value or
stopped. -/
def RestsAt (id : GeneratorId) {α : Type} (r : Except Stop α) (m : Machine) : Prop :=
  match r with
  | .ok _ => ∃ targets frames, m.scopes.generator? id.scope = some (.suspended targets frames)
  | .error _ => ∃ c, m.scopes.generator? id.scope = some (.completed c)

section Resume

variable (h : (keeping (Tracked (id :: active))).Couples ev ev') {m₀ m : Machine}
  (hI : Tracked active m₀ m) {state : GeneratorState}
  (hstate : m.scopes.generator? id.scope = some state)

/-- What the outcome of a body makes of its generator. -/
theorem alike_settle (hid : id ∉ active) {n : Machine} (hn : Tracked (id :: active) m₀ n)
    (outcome : Except Stop Pause) :
    Alike (fun r n => Tracked active m₀ n ∧ RestsAt id r n) ((settle id outcome).on n)
      ((settle id outcome).on n) := by
  have hs : n.scopes.generator? id.scope = some .running := (hn.running id).2 (by simp)
  have hset (s : GeneratorState) :
      (n.scopes.setGenerator id.scope s).generator? id.scope = some s :=
    n.scopes.generator?_setGenerator_self id.scope hs s
  match outcome with
  | .ok (.yielded v targets frames) =>
    exact .ok ⟨hn.stop hid (.suspend targets frames), targets, frames, hset _⟩
  | .ok (.returned v) => exact .error ⟨hn.stop hid (.complete _), _, hset _⟩
  | .error s => exact .error ⟨hn.stop hid (.complete _), _, hset _⟩

include h hI hstate

/-- **Running a generator that waits.** -/
theorem alike_runSuspended (hstep : state.Step .running) (targets : List Expr)
    (frames : List Frame) (resume : Resume) :
    Alike
      (fun r n => Tracked active m₀ n ∧
        (m.depth < m.config.maxCallDepth → RestsAt id r n))
      ((runSuspended ev id targets frames resume).on m)
      ((runSuspended ev' id targets frames resume).on m) := by
  have hid : id ∉ active := by
    intro hmem
    rw [(hI.running id).2 hmem] at hstate
    cases hstate
    cases hstep
  have hdrive := (tracked_steady (id :: active)).withHandled (handledBy frames)
    (h.driveFrom (s := id.scope) (tracked_steady _) (.of_united _)
      (keeping_shows (exprsNames targets)) (keeping_shows (framesNames frames)) resume).sim
  have hbody := Sim.bind hdrive.of_united.sim fun result => Sim.ofStop result
  rcases Nat.lt_or_ge m.depth m.config.maxCallDepth with hlt | hge
  · have hI' : Tracked (id :: active) m₀
        { m with
          depth := m.depth + 1
          scopes := m.scopes.setGenerator id.scope .running } :=
      (hI.run hstate hstep).of_eq fun _ => rfl
    refine Alike.bind (Q := fun r n => (∃ a, r = .ok a) ∧ Tracked (id :: active) m₀ n) ?_
      (fun outcome n hn => ?_) fun s n hn => by simp at hn
    · rw [Eval.on_inFrame_of_lt hlt, Eval.on_inFrame_of_lt hlt, Eval.setGeneratorState,
        Eval.on_bind_ok (Eval.on_modify _ _), Eval.on_bind_ok (Eval.on_modify _ _)]
      refine (hbody.alike hI').leaving (fun r _ => by simp) fun r n hn => ?_
      exact ⟨⟨r, rfl⟩, hn.1.of_eq fun _ => rfl⟩
    · exact (alike_settle hid hn.2 outcome).mono fun r n hn => ⟨hn.1, fun _ => hn.2⟩
  · rw [on_runSuspended_of_le ev hge, on_runSuspended_of_le ev' hge]
    exact .error ⟨hI, fun hlt => absurd hlt (Nat.not_lt.2 hge)⟩

end Resume

/-- **Resuming a generator** keeps track of what runs if its body does, with
that generator added to the list. -/
theorem tracked_resumeGenerator (h : (keeping (Tracked (id :: active))).Couples ev ev')
    (r : Resume) :
    (keeping (Tracked active)).Sim (resumeGenerator ev id r) (resumeGenerator ev' id r) := by
  refine keeping_sim fun m₀ m hI => ?_
  suffices halike : Alike (fun _ n => Tracked active m₀ n) ((resumeGenerator ev id r).on m)
      ((resumeGenerator ev' id r).on m) from
    halike.mono fun _ _ hn => ⟨hn, fun _ _ => trivial⟩
  rw [on_resumeGenerator, on_resumeGenerator]
  cases hstate : m.scopes.generator? id.scope with
  | none =>
    rw [show (m.generator id).state = .running by rw [Machine.generator, hstate]; rfl]
    exact .error hI
  | some state =>
    rw [generator_of_eq_some hstate]
    cases state with
    | running => exact .error hI
    | completed => cases r <;> exact .error hI
    | notStarted body =>
      cases r with
      | throw e => exact .error (hI.complete hstate (by simp) (.single (.abandon body _)) hI.refl)
      | send v =>
        unfold resumeFrom
        dsimp only
        split
        · exact (alike_runSuspended h hI hstate (.start body) _ _ _).mono fun _ _ hn => hn.1
        · exact .error hI
    | suspended targets frames =>
      exact (alike_runSuspended h hI hstate (.wake targets frames) _ _ _).mono
        fun _ _ hn => hn.1

/-! ## Closing -/

/-- A generator that is running is refused by an evaluator. -/
def Refuses (ev : Evaluator) : Prop :=
  ∀ (m : Machine) (id : GeneratorId) (r : Resume), (m.generator id).state = .running →
    ev.resume id r = throw .endless ∨
      (ev.resume id r).on m = (.error (.fault .alreadyExecuting), m)

/-- **Closing a generator that is running** is refused like resuming it. -/
theorem on_close_of_running {m : Machine} (h : (m.generator id).state = .running)
    (hresume : (ev.resume id (.throw (.bare .generatorExit))).on m =
      (.error (.fault .alreadyExecuting), m)) :
    (closeGenerator ev id).on m = (.error (.fault .alreadyExecuting), m) := by
  rw [closeGenerator, Eval.on_bind_ok (on_generatorState id m), h]
  dsimp only
  rw [Eval.on_bind_ok (Eval.on_attempt_of_ne hresume (by simp))]
  rfl

/-- Closing a generator keeps track of what runs. -/
theorem tracked_closeGenerator (hev : Refuses ev)
    (hresume : ∀ r, (keeping (Tracked active)).Sim (ev.resume id r) (ev'.resume id r)) :
    (keeping (Tracked active)).Sim (closeGenerator ev id) (closeGenerator ev' id) := by
  refine keeping_sim fun m₀ m hI => ?_
  suffices halike : Alike (fun _ n => Tracked active m₀ n) ((closeGenerator ev id).on m)
      ((closeGenerator ev' id).on m) from
    halike.mono fun _ _ hn => ⟨hn, fun _ _ => trivial⟩
  rw [closeGenerator, closeGenerator, Eval.on_bind_ok (on_generatorState id m),
    Eval.on_bind_ok (on_generatorState id m)]
  -- the resume that tells the body to exit is seen from the machine as it is now
  have hexit := (hresume (.throw (.bare .generatorExit))).alike hI.refl
  have hrefused (h : (m.generator id).state = .running) :
      Alike (fun _ n => Tracked active m₀ n)
        ((Eval.attempt (ev.resume id (.throw (.bare .generatorExit))) >>= answerExit id).on m)
        ((Eval.attempt (ev'.resume id (.throw (.bare .generatorExit))) >>= answerExit id).on m) := by
    have hbusy : Alike (fun r n => r = .error (.fault .alreadyExecuting) ∧ Tracked active m n)
        ((ev.resume id (.throw (.bare .generatorExit))).on m)
        ((ev'.resume id (.throw (.bare .generatorExit))).on m) := by
      rcases hexit with hend | ⟨heq, hne, hn, -⟩
      · exact .inl hend
      · refine .inr ⟨heq, hne, ?_, hn⟩
        rcases hev m id (.throw (.bare .generatorExit)) h with hend | hbusy
        · rw [hend] at hne
          exact absurd rfl hne
        · rw [hbusy]
    refine hbusy.attempt_bind fun r n hn => ?_
    obtain ⟨rfl, hn⟩ := hn
    exact .error (hI.trans hn)
  cases hstate : m.scopes.generator? id.scope with
  | none =>
    have hrunning : (m.generator id).state = .running := by
      rw [Machine.generator, hstate]
      rfl
    rw [hrunning]
    exact hrefused hrunning
  | some state =>
    have hs := generator_of_eq_some hstate
    rw [hs]
    cases state with
    | notStarted body =>
      exact .ok (hI.complete hstate (by simp) (.single (.abandon body _)) hI.refl)
    | completed => exact .ok hI
    | running => exact hrefused hs
    | suspended targets frames =>
      refine hexit.attempt_bind fun r n hn => ?_
      have hcomplete : Tracked active m₀
          { n with scopes := n.scopes.setGenerator id.scope (.completed (.returned .none)) } :=
        hI.complete hstate (by simp) (.tail (.single (.wake targets frames)) (.complete _)) hn.1
      unfold answerExit
      split
      · exact .error (hI.trans hn.1)
      · exact .ok (hI.trans hn.1)
      · split
        · exact .ok hcomplete
        · exact .error (hI.trans hn.1)

/-! ## Closing the circle -/

/-- **An evaluator that keeps track of what runs**, given the generators that are
being resumed. If these are not exactly the ones that are running, an alarm
takes the place of each of its operations. -/
def Evaluator.tracking (alarm : (α : Type) → Eval α) :
    (bound : Nat) → (active : List GeneratorId) → Evaluator
  | 0, _ => .idle
  | bound + 1, active =>
    Evaluator.checked (·.runs active) alarm
      { (tracking alarm bound active).deeper with
        resume := fun id r => resumeGenerator (tracking alarm bound (id :: active)) id r }

theorem refuses_bounded (n : Nat) : Refuses (.bounded n) := by
  intro m id r h
  cases n with
  | zero => exact .inl rfl
  | succ n => exact .inr (on_resume_of_running (.bounded n) h r)

/-- **What runs is always known**: an evaluator that keeps track never sounds its
alarm. -/
theorem tracked_tracking (alarm : (α : Type) → Eval α) (n : Nat) (active : List GeneratorId) :
    (keeping (Tracked active)).Couples (.bounded n) (.tracking alarm n active) := by
  induction n generalizing active with
  | zero =>
    have hresume (id : GeneratorId) (r : Resume) :
        (keeping (Tracked active)).Sim (Evaluator.idle.resume id r) (Evaluator.idle.resume id r) :=
      Sim.throw .endless
    exact ⟨(tracked_kept active).lawful, fun _ => Sim.throw _, fun _ => Sim.throw _, hresume,
      fun id => tracked_closeGenerator (refuses_bounded 0) (hresume id), .done,
      .inl fun _ _ => .of_united _⟩
  | succ n ih =>
    have hcheck (m₀ m : Machine) (hI : Tracked active m₀ m) : m.runs active = true :=
      Machine.runs_iff.2 hI.running
    have hresume (id : GeneratorId) (r : Resume) :
        (keeping (Tracked active)).Sim ((Evaluator.bounded (n + 1)).resume id r)
          ((Evaluator.tracking alarm (n + 1) active).resume id r) :=
      (tracked_resumeGenerator (ih (id :: active)) r).checked hcheck (alarm Value)
    refine ⟨(tracked_kept active).lawful, fun hn => ((ih active).evalExpr hn).checked hcheck _,
      fun hn => ((ih active).execStmt hn).checked hcheck _, hresume,
      fun id => tracked_closeGenerator (refuses_bounded (n + 1)) (hresume id),
      .more (ih active).rounds, .inl fun _ _ => .of_united _⟩

/-- An operation that comes to an end, seen from where it starts. -/
theorem tracked_of_sim {m : Machine} (hm : m.runs active = true) {α : Type} {x y : Eval α}
    (h : (keeping (Tracked active)).Sim x y) (hne : (x.on m).1 ≠ .error .endless) :
    y.on m = x.on m ∧ Tracked active m (x.on m).2 := by
  rcases h.alike (w := m) ⟨.refl m, Machine.runs_iff.1 hm⟩ with ⟨hend, -⟩ | ⟨heq, -, hI, -⟩
  · exact absurd hend hne
  · exact ⟨heq, hI⟩

/-! ## Sessions -/

namespace Session

variable {s s' : Session}

/-- What a host does keeps track of what runs, which is nothing. -/
theorem tracked_perform (hs : s.machine.runs [] = true) {α : Type} {x : Evaluator → Eval α}
    (hx : ∀ {ev ev' : Evaluator}, (keeping (Tracked [])).Couples ev ev' →
      (keeping (Tracked [])).Sim (x ev) (x ev'))
    (hne : (s.perform (.boundedly x)).1 ≠ .error .endless) :
    Tracked [] s.machine (s.perform (.boundedly x)).2.machine := by
  rw [perform_eq, Eval.on_boundedly] at hne ⊢
  exact (tracked_of_sim hs (hx (tracked_tracking (fun _ => MonadExcept.throw Stop.endless) _ [])) hne).2

/-- **One operation of a host.** -/
theorem Step.tracked (h : s.Step s') (hs : s.machine.runs [] = true) :
    Tracked [] s.machine s'.machine := by
  have hsame : Tracked [] s.machine s.machine := ⟨.refl _, Machine.runs_iff.1 hs⟩
  cases h with
  | run body hne => exact tracked_perform hs (fun h => h.execModule (keeping_shows _) _) hne
  | call name arguments hne =>
    unfold Session.call at hne ⊢
    cases hc : s.machine.scopes.findLocal? s.globals name with
    | none => exact hsame
    | some callee =>
      rw [hc] at hne
      exact tracked_perform hs (fun h => h.callValue callee arguments) hne
  | send id value hne => exact tracked_perform hs (fun h => h.resume id _) hne
  | throw id e hne => exact tracked_perform hs (fun h => h.resume id _) hne
  | close id hne => exact tracked_perform hs (fun h => h.close id) hne
  | define name value =>
    exact hsame.of_eq fun id => ScopeTree.generator?_define _ s.globals id name value
  | clearOutput => exact hsame.of_eq fun _ => rfl

/-- **Any number of operations of a host.** -/
theorem Leads.tracked (h : s.Leads s') (hs : s.machine.runs [] = true) :
    Tracked [] s.machine s'.machine := by
  induction h with
  | refl => exact ⟨.refl _, Machine.runs_iff.1 hs⟩
  | step _ hstep ih => exact ih.trans (hstep.tracked (Machine.runs_iff.2 ih.running))
  | @evaluate s' body _ hne ih =>
    refine ih.trans ?_
    have hfresh : (s'.machine.fresh .standard).runs [] = true := Machine.runs_iff.2 ih.running
    have hrun := tracked_perform (s := ⟨s'.machine.fresh .standard, s'.globals⟩) hfresh
      (fun h => h.execModule (keeping_shows _) _) hne
    exact ⟨hrun.evolved, hrun.running⟩

/-- No generator of a new session is running. -/
theorem runs_start (config : Config) : (start config).machine.runs [] = true := by
  refine Machine.runs_iff.2 fun id => ⟨fun h => ?_, fun h => by cases h⟩
  have hnone : (start config).machine.scopes.generator? id.scope = none := by
    rcases Nat.eq_zero_or_pos id.scope.index with hzero | hpos
    · simp [start, Machine.initial, ScopeTree.empty, ScopeTree.addScope, ScopeTree.generator?,
        ScopeTree.scope?, hzero]
    · exact ScopeTree.generator?_of_size_le _ _ hpos
  rw [hnone] at h
  cases h

end Session

/-! ## The life of a generator -/

end MeteredScript
