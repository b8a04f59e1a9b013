import MeteredScript.Proofs.Metering.Limit
import MeteredScript.Proofs.Metering.Tries

/-!
# Enough room for the gas that is left

An evaluator may recurse so deep, and take so many turns in a loop, that the gas runs out
first. This matters in one place. A generator whose gas ran out takes a few turns
more, one for each `finally` block around the place where it was, and its turns are counted.
It has to get to the end of them for the lack of gas to be what it ends with.

Each level of recursion costs a unit of gas, but for two: the one that resumes a
generator, and the one that takes the items of a generator that was sent to it. So an evaluator
with three levels for each unit of gas has turns enough, and this is what a budget
(`Machine.Affords`) is about. A run within its budget either runs out of gas and
ends with that, or does what it does with any higher limit.
-/

namespace MeteredScript

open Coupling

/-! ## What a step from a `yield` resumes -/

/-- The evaluator that resumes generators in another way. -/
def Evaluator.resuming (ev : Evaluator) (resume : GeneratorId → Resume → Eval Value) :
    Evaluator :=
  { ev with resume }

section Resuming

variable (ev : Evaluator) (resume : GeneratorId → Resume → Eval Value) (s : ScopeId)

theorem findHandler_resuming (kind : ExceptionKind) (handlers : List Handler) :
    findHandler (ev.resuming resume) s kind handlers = findHandler ev s kind handlers := by
  induction handlers with
  | nil => rfl
  | cons handler rest ih =>
    unfold findHandler
    rw [ih]
    rfl

/-- To look for a handler is to evaluate expressions and nothing else. -/
theorem unwind_resuming (stop : Stop) (frames : List Frame) :
    unwind (ev.resuming resume) s stop frames = unwind ev s stop frames := by
  have henter (handlers : List Handler) (cleanup : Option Block) (stop : Stop)
      (frames : List Frame) :
      enterHandler (ev.resuming resume) s handlers cleanup stop frames =
        enterHandler ev s handlers cleanup stop frames := by
    unfold enterHandler
    simp only [findHandler_resuming]
  induction frames generalizing stop with
  | nil => rfl
  | cons frame frames ih => cases frame <;> simp only [unwind, ih, henter]

theorem wake_resuming {targets : List Expr} {r : Resume}
    (h : deliver (ev.resuming resume) s targets r = deliver ev s targets r)
    (frames : List Frame) :
    wake (ev.resuming resume) s targets frames r = wake ev s targets frames r := by
  unfold wake recover
  simp only [h, unwind_resuming]

/-- `None` has no items to be taken. -/
theorem deliver_none_resuming (targets : List Expr) :
    deliver (ev.resuming resume) s targets (.send .none) = deliver ev s targets (.send .none) := by
  show assignAll _ s .none targets = assignAll _ s .none targets
  have htarget (target : Expr) :
      assignTarget (ev.resuming resume) s target .none = assignTarget ev s target .none := by
    cases target <;> rfl
  induction targets with
  | nil => rfl
  | cons target targets ih =>
    unfold assignAll
    rw [ih, htarget]

end Resuming

/-- The evaluator that only ever asks generators for their next item. -/
def Evaluator.asking (ev : Evaluator) : Evaluator :=
  ev.resuming fun id _ => ev.resume id (.send .none)

section Asking

variable (ev : Evaluator) (s : ScopeId)

theorem unpackItems_asking (v : Value) (targets : Nat) :
    unpackItems ev.asking v targets = unpackItems ev v targets := by
  have hiterate {σ : Type} (turn : σ → Value → Eval (ForInStep σ)) (n : Nat) (cursor : Cursor)
      (state : σ) : ev.asking.iterate turn n cursor state = ev.iterate turn n cursor state := by
    induction n generalizing cursor state with
    | zero => rfl
    | succ n ih =>
      unfold Evaluator.iterate
      simp only [ih]
      rfl
  unfold unpackItems Evaluator.collect
  simp only [hiterate]
  rfl

mutual

/-- **To assign is to ask**: the items of a generator are taken one after the other. -/
theorem assignTarget_asking : ∀ (target : Expr) (v : Value),
    assignTarget ev.asking s target v = assignTarget ev s target v
  | .tuple targets, v | .list targets, v => by
    unfold assignTarget
    simp only [unpackItems_asking, assignEach_asking targets]
  | .name _, _ | .attribute _ _, _ | .subscript _ _, _ | .int _, _ | .str _, _ | .bool _, _
  | .none, _ | .format _, _ | .set _, _ | .dict _, _ | .call _ _, _ | .binary _ _ _, _
  | .logical _ _ _, _ | .unary _ _, _ | .compare _ _, _ | .conditional _ _ _, _ | .lambda _ _, _
  | .comprehension _ _, _ | .yield _, _ => rfl

theorem assignEach_asking : ∀ (targets : List Expr) (values : List Value),
    assignEach ev.asking s targets values = assignEach ev s targets values
  | target :: targets, v :: values => by
    unfold assignEach
    rw [assignTarget_asking target v, assignEach_asking targets values]
  | [], [] | [], _ :: _ | _ :: _, [] => rfl

end

theorem deliver_asking (targets : List Expr) (r : Resume) :
    deliver ev.asking s targets r = deliver ev s targets r := by
  match r with
  | .throw e => rfl
  | .send v =>
    show assignAll _ s v targets = assignAll _ s v targets
    induction targets with
    | nil => rfl
    | cons target targets ih =>
      unfold assignAll
      rw [ih, assignTarget_asking]

end Asking

/-! ## Paying -/

/-- The machine when one unit of gas was asked for. -/
def Machine.ticked (m : Machine) : Machine :=
  { m with gas := min (m.gas + 1) Eval.gasCeiling }

namespace Machine

variable {limit b : Nat} {budget : Option Nat} {w m m' : Machine}

theorem UpToLimit.of_affords (h : UpToLimit limit budget w m m') {budget' : Option Nat}
    (hb : ∀ b ∈ budget', w.Affords b) : UpToLimit limit budget' w m m' :=
  ⟨h.eq, h.le, h.burns, h.unspent, hb⟩

/-- **A unit of gas that was paid** leaves three units less of the budget. -/
theorem UpToLimit.ticked (h : UpToLimit limit (some b) w m m')
    (hpay : ¬ m.config.gasLimit < min (m.gas + 1) Eval.gasCeiling) :
    3 ≤ b ∧ ¬ m.ticked.Spent ∧ w.Burns m.ticked ∧ m.ticked.Affords (b - 3) := by
  obtain ⟨hceiling, hb⟩ := h.affords b rfl
  have hburns : w.Burns m.ticked := h.burns.trans (WindsDown.charge m 1).burns
  obtain ⟨hc, hg⟩ := h.burns
  have hticked : m.ticked.config.gasLimit - m.ticked.gas + 1 ≤ w.config.gasLimit - w.gas := by
    unfold Machine.ticked
    dsimp only
    rw [hc] at hpay ⊢
    omega
  refine ⟨by omega, ?_, hburns, ?_, by omega⟩
  · unfold Spent Machine.ticked
    dsimp only
    omega
  · rw [hburns.1]
    exact hceiling

end Machine

namespace Coupling

variable {α : Type} {Out P : α → Prop} {limit b b' : Nat} {budget budget' : Option Nat}
  {w m m' : Machine}

/-- Two runs that started earlier, and within another budget. -/
theorem AgreeTo.rebudget {w' : Machine} {o o' : Except Stop α × Machine}
    (h : (upToLimit limit budget).AgreeTo w Out P o o') (hburns : w'.Burns w)
    (hw : ¬ w'.Spent → ¬ w.Spent) (hb : ∀ b ∈ budget', w'.Affords b)
    (hp : budget.isNone = true → budget'.isNone = true) :
    (upToLimit limit budget').AgreeTo w' Out P o o' := by
  have hR {n n' : Machine} (h : Machine.UpToLimit limit budget w n n') :
      Machine.UpToLimit limit budget' w' n n' :=
    ⟨h.eq, h.le, hburns.trans h.burns, fun hs => h.unspent (hw hs), hb⟩
  cases h with
  | ok ha h => exact .ok ha (hR h)
  | stop hs h => exact .stop hs (hR h)
  | endless h => exact .endless (hR h)
  | endlessLeft h => exact .endlessLeft (hp h)
  | endlessRight h => exact .endlessRight h
  | excused h => exact h.elim
  | parted ho h => exact .parted ho h

/-- A larger budget is a weaker assumption. -/
theorem SimTo.within {x y : Eval α} (h : (upToLimit limit (some b')).SimTo Out P x y)
    (hle : b ≤ b') : (upToLimit limit (some b)).SimTo Out P x y where
  total := h.total
  left := h.left
  right := h.right
  agree {w m m'} hR := by
    have hw : w.Affords b := hR.affords b rfl
    have hR' : Machine.UpToLimit limit (some b') w m m' := hR.of_affords <| by
      rintro b ⟨⟩
      exact ⟨hw.1, Nat.le_trans hw.2 hle⟩
    exact (h.agree hR').rebudget (.refl w) id hR.affords id

/-- **What is done after a unit of gas was asked for**: with three units less of the budget,
or without gas. The right run has gas enough. -/
theorem agree_tick {f g : Except Stop Unit → Eval α} (hlimit : Eval.gasCeiling ≤ limit)
    (hR : Machine.UpToLimit limit (some b) w m m')
    (hok : ∀ {w m m'}, 3 ≤ b → Machine.UpToLimit limit (some (b - 3)) w m m' →
      (upToLimit limit (some (b - 3))).AgreeTo w Out P ((f (.ok ())).on m) ((g (.ok ())).on m'))
    (hend : (upToLimit limit (some b)).Unwinds Out (f (.error .gasExhausted)))
    (hright : (upToLimit limit (some b)).Lenient →
      ∀ m : Machine, m.Prints ((g (.ok ())).on m).2) :
    (upToLimit limit (some b)).AgreeTo w Out P ((Eval.attempt Eval.tick >>= f).on m)
      ((Eval.attempt Eval.tick >>= g).on m') := by
  have hpaid {m : Machine} (hpay : ¬ m.config.gasLimit < min (m.gas + 1) Eval.gasCeiling)
      (f : Except Stop Unit → Eval α) :
      (Eval.attempt Eval.tick >>= f).on m = (f (.ok ())).on m.ticked := by
    refine Eval.on_bind_ok (Eval.on_attempt_of_ne ?_ (by simp)) f
    rw [Eval.tick, Eval.on_charge, if_neg hpay]
    rfl
  have hR' := hR.eq
  have hpay' : ¬ m'.config.gasLimit < min (m'.gas + 1) Eval.gasCeiling := by
    rw [hR']
    show ¬ limit < _
    omega
  rw [hpaid hpay']
  by_cases hpay : m.config.gasLimit < min (m.gas + 1) Eval.gasCeiling
  · have hspent : m.ticked.Spent := by
      unfold Machine.Spent Machine.ticked
      dsimp only
      omega
    have hcharged : Eval.tick.on m = (.error .gasExhausted, m.ticked) := by
      rw [Eval.tick, Eval.on_charge, if_pos hpay]
      rfl
    rw [Eval.on_bind_ok (Eval.on_attempt_of_ne hcharged (by simp)) f]
    have hparted (halted : Bool) :
        (upToLimit limit (some b)).Parted halted m.ticked m'.ticked :=
      ⟨hspent, .of_eq (by rw [hR']; rfl)⟩
    rcases hend _ _ _ (hparted false) with ⟨hpl, -⟩ | ⟨hend, hdown⟩
    · cases hpl
    · have hprints := hright ⟨_, _, .inr (hparted false)⟩ m'.ticked
      refine .parted hend ((upToLimit limit (some b)).parted_windsDown ?_ hdown)
      exact (upToLimit limit (some b)).parted_right (hparted false) hprints
  · obtain ⟨h3, hspent, hburns, hafford⟩ := hR.ticked hpay
    rw [hpaid hpay]
    have hR₁ : Machine.UpToLimit limit (some (b - 3)) m.ticked m.ticked m'.ticked := by
      have hle : m.ticked.config.gasLimit ≤ limit := hR.le
      rw [hR']
      exact .refl hle (by rintro b ⟨⟩; exact hafford)
    exact (hok h3 hR₁).rebudget hburns (fun _ => hspent) hR.affords id

/-- **What is paid for** may take three units less of the budget. -/
theorem Sim.pay (hlimit : Eval.gasCeiling ≤ limit) {x y : Eval α}
    (h : (upToLimit limit (some (b - 3))).Sim x y) :
    (upToLimit limit (some b)).Sim (do Eval.tick; x) (do Eval.tick; y) := by
  have hright (hl : (upToLimit limit (some b)).Lenient) (m : Machine) : m.Prints (y.on m).2 :=
    h.right hl m
  refine ⟨fun _ _ => trivial, fun _ _ => trivial, fun hl m => ?_, fun {w m m'} hR => ?_⟩
  · exact (prints_charge 1 m).trans
      (evolves_of_bind (fun _ => List.prefix_rfl) Eval.tick (fun _ => hright hl) m)
  · rw [← attempt_bind_ofStop Eval.tick, bind_assoc, bind_assoc]
    refine agree_tick hlimit hR (fun _ hR => ?_) ?_ hright
    · exact h.agree hR
    · exact Unwinds.throw

/-! ## Turns -/

section Drive

variable {ev : Evaluator} {β : Nat} (h₀ : (upToLimit limit none).Couples ev ev)
  (h : (upToLimit limit (some β)).Couples ev ev)

include h₀ in
/-- What is printed while frames are run stays printed. -/
theorem prints_drive (hl : (upToLimit limit budget).Lenient) (s : ScopeId) (n : Nat)
    (frames : List Frame) (m : Machine) : m.Prints ((drive ev s n frames).on m).2 := by
  have hp : (upToLimit limit none).Patient := fun _ _ _ _ => rfl
  exact (h₀.drive upToLimit_whole.toSteady hp (.refl n) (upToLimit_shows _)).right hl m

include h₀ h

/-- **There are turns enough**: two for each unit of gas that is left, one of which a
`try` statement may ask for that was opened in the other, and one for each `try` statement
that is open. -/
theorem agree_drive (hlimit : Eval.gasCeiling ≤ limit) (s : ScopeId) {n b : Nat}
    {frames : List Frame} (hb : b ≤ β + 3) (hn : tryFrames frames + 2 * (b / 3) < n)
    {w m m' : Machine} (hR : Machine.UpToLimit limit (some b) w m m') :
    (upToLimit limit (some b)).AgreeTo w (fun _ => False) (fun _ => True)
      ((drive ev s n frames).on m) ((drive ev s n frames).on m') := by
  induction n generalizing b frames w m m' with
  | zero => omega
  | succ n ih =>
    cases frames with
    | nil => exact .ok trivial hR
    | cons frame frames =>
      have hnext (hl : (upToLimit limit (some b)).Lenient) (p : Progress) (m : Machine) :
          m.Prints ((driveOn ev s n p).on m).2 := by
        cases p with
        | onward rest => exact prints_drive h₀ hl s n rest m
        | paused pause => exact .of_eq rfl
      have hwind (p : Progress) (hp : Unwinding (frame :: frames) p) :
          (upToLimit limit (some b)).Unwinds (fun _ => False) (driveOn ev s n p) := by
        cases p with
        | onward rest => exact unwinds_drive ev s (.inr (by have := hp.2; omega)) hp.1
        | paused pause => exact hp.elim
      have hpaid : (upToLimit limit (some β)).SimTo (Unwinding (frame :: frames))
          (fun p => (upToLimit limit (some β)).Shows p.names)
          (paidTurnWith (fun _ x => x) ev s frame frames)
          (paidTurnWith (fun _ x => x) ev s frame frames) :=
        h.paidTurnWith upToLimit_whole.toSteady (sees_self _) (upToLimit_shows _)
          (upToLimit_shows _)
      rw [drive_cons]
      refine agree_tick hlimit hR (fun {w m m'} hb3 hR => ?_) ?_ fun hl m => ?_
      · -- one more `try` statement may be open, but there is one charge less to come
        have hturn := (hpaid.within (by omega)).agree hR
        refine (hturn.gives (tries_paidTurn ev s frame frames)).bind (fun _ _ _ => trivial) hnext
          (fun {p n n'} hp hR => ?_) hwind
        cases p with
        | onward rest =>
          have htries : tryFrames rest ≤ tryFrames (frame :: frames) + 1 := hp.2
          exact ih (by omega) (by omega) hR
        | paused pause => exact .ok trivial hR
      · exact Unwinds.bind (unwinds_recover ev s (frame :: frames)) hwind
      · exact (hpaid.right hl m).trans (evolves_of_bind (fun _ => List.prefix_rfl) _ (hnext hl) m)

/-- **Two runs from a `yield` to the next one**, given the first step. -/
theorem sim_driveFrom (hlimit : Eval.gasCeiling ≤ limit) (s : ScopeId) {b : Nat}
    (hb : b ≤ β + 3) (hrounds : b ≤ ev.rounds + 1) {targets : List Expr} {frames : List Frame}
    {r : Resume}
    (hwake : (upToLimit limit (some b)).SimTo (Unwinding frames)
      (fun p => (upToLimit limit (some b)).Shows p.names)
      (wake ev s targets frames r) (wake ev s targets frames r)) :
    (upToLimit limit (some b)).SimOf (fun p => (upToLimit limit (some b)).Shows p.names)
      (driveFrom ev s targets frames r) (driveFrom ev s targets frames r) where
  total _ _ := upToLimit_shows _
  left _ _ := trivial
  right hl m := by
    have hp : (upToLimit limit none).Patient := fun _ _ _ _ => rfl
    exact (h₀.driveFrom upToLimit_whole.toSteady hp (upToLimit_shows _) (upToLimit_shows _)
      r).right hl m
  agree {w m m'} hR := by
    have hlength := tryFrames_le_length frames
    have hagree := (hwake.agree hR).gives (tries_wake ev s targets frames r)
    refine hagree.bind (fun _ _ _ => trivial) (fun hl p m => ?_) (fun {p n n'} hp hR => ?_)
      fun p hp => ?_
    · match p with
      | .onward rest => exact prints_drive h₀ hl s _ rest m
      | .paused pause => exact .of_eq rfl
    · match p, hp with
      | .onward rest, hp =>
        have htries : tryFrames rest ≤ tryFrames frames := hp.2
        refine (agree_drive h₀ h hlimit s hb ?_ hR).mono (fun _ => id)
          fun _ _ => upToLimit_shows _
        unfold MeteredScript.driveRounds
        omega
      | .paused pause, _ => exact .ok (upToLimit_shows _) hR
    · match p, hp with
      | .onward rest, hp =>
        refine unwinds_drive ev s (.inr ?_) hp.1
        have := hp.2
        unfold MeteredScript.driveRounds
        omega

end Drive

/-! ## Levels of recursion -/

/-- **What a bounded evaluator may be asked for**: so much gas may be left that there are
three levels of recursion for each unit of it. A generator takes one of them to be
resumed, and perhaps another one if a value is sent to it. -/
structure Lasts (limit n : Nat) : Prop where
  eval (e : Expr) (s : ScopeId) : (upToLimit limit (some (n + 1))).Sim
    ((Evaluator.bounded n).eval e s) ((Evaluator.bounded n).eval e s)
  exec (st : Stmt) (s : ScopeId) : (upToLimit limit (some (n + 1))).Sim
    ((Evaluator.bounded n).exec st s) ((Evaluator.bounded n).exec st s)
  ask (id : GeneratorId) : (upToLimit limit (some n)).Sim
    ((Evaluator.bounded n).resume id (.send .none)) ((Evaluator.bounded n).resume id (.send .none))
  throw (id : GeneratorId) (e : Exception) : (upToLimit limit (some n)).Sim
    ((Evaluator.bounded n).resume id (.throw e)) ((Evaluator.bounded n).resume id (.throw e))
  send (id : GeneratorId) (v : Value) : (upToLimit limit (some (n - 1))).Sim
    ((Evaluator.bounded n).resume id (.send v)) ((Evaluator.bounded n).resume id (.send v))

namespace Lasts

variable {n : Nat} (h : Lasts limit n)

include h

/-- Code that resumes generators in some way. -/
theorem couples_resuming (hb : b ≤ n + 1) (resume : GeneratorId → Resume → Eval Value)
    (hresume : ∀ id r, (upToLimit limit (some b)).Sim (resume id r) (resume id r)) :
    (upToLimit limit (some b)).Couples ((Evaluator.bounded n).resuming resume)
      ((Evaluator.bounded n).resuming resume) where
  toLawful := upToLimit_lawful
  eval _ := (h.eval _ _).within hb
  exec _ := (h.exec _ _).within hb
  resume := hresume
  close := upToLimit_whole.closeGenerator hresume
  rounds := .refl _
  unwinds := by
    cases n with
    | zero => exact .inr ⟨idles_idle, idles_idle⟩
    | succ n => exact .inl fun _ _ => Unwinds.bind (Unwinds.charge 1) fun _ => False.elim

/-- Code that resumes generators in any way. -/
theorem couples : (upToLimit limit (some (n - 1))).Couples (.bounded n) (.bounded n) := by
  refine h.couples_resuming (by omega) (Evaluator.bounded n).resume fun id r => ?_
  match r with
  | .send v => exact h.send id v
  | .throw e => exact (h.throw id e).within (by omega)

variable (hlimit : Eval.gasCeiling ≤ limit)

include hlimit

/-- Resuming a generator, given the first step. -/
theorem resumeGenerator {id : GeneratorId} {r : Resume} (hb : b ≤ n + 1)
    (hwake : ∀ targets frames, (upToLimit limit (some b)).SimTo (Unwinding frames)
      (fun p => (upToLimit limit (some b)).Shows p.names)
      (wake (.bounded n) id.scope targets frames r)
      (wake (.bounded n) id.scope targets frames r)) :
    (upToLimit limit (some b)).Sim (resumeGenerator (.bounded n) id r)
      (resumeGenerator (.bounded n) id r) := by
  have hc : (upToLimit limit (some b)).Whole := upToLimit_whole
  refine SimOf.bind (hc.generatorState id) fun state hs => ?_
  rw [resumeFrom_eq_resumeBy]
  refine Couples.resumeBy hc.toSettled (fun targets frames _ _ => ?_) hs
  refine Couples.runBy hc.toLawful hc.toSettled (hc.withHandled _ ?_)
  exact sim_driveFrom (upToLimit_bounded (Nat.le_refl n)) h.couples hlimit id.scope (by omega)
    (by rw [rounds_bounded]; exact hb) (hwake targets frames)

/-- **One level more.** -/
theorem succ : Lasts limit (n + 1) := by
  have hpay {α : Type} {x : Eval α} (hx : (upToLimit limit (some (n - 1))).Sim x x) :
      (upToLimit limit (some (n + 2))).Sim (do Eval.tick; x) (do Eval.tick; x) :=
    Sim.pay hlimit (hx.within (by omega))
  have hquiet {id : GeneratorId} {r : Resume} (hr : ∀ targets,
      deliver ((Evaluator.bounded n).resuming fun _ _ => MonadExcept.throw Stop.endless) id.scope
        targets r =
        deliver (.bounded n) id.scope targets r) :
      (upToLimit limit (some (n + 1))).Sim (MeteredScript.resumeGenerator (.bounded n) id r)
        (MeteredScript.resumeGenerator (.bounded n) id r) := by
    refine h.resumeGenerator hlimit (Nat.le_refl _) fun targets frames => ?_
    rw [← wake_resuming _ _ _ (hr targets)]
    exact (h.couples_resuming (Nat.le_refl _) _ fun _ _ => Sim.throw .endless).wake
      upToLimit_whole.toSteady (upToLimit_shows _) (upToLimit_shows _) r
  refine ⟨fun e s => hpay (h.couples.evalForm (upToLimit_shows _)),
    fun st s => hpay (h.couples.execForm (upToLimit_shows _)),
    fun id => hquiet fun targets => deliver_none_resuming _ _ _ targets,
    fun id e => hquiet fun _ => rfl, fun id v => ?_⟩
  refine h.resumeGenerator hlimit (Nat.le_succ n) fun targets frames => ?_
  rw [← wake_resuming _ _ _ (deliver_asking _ _ targets _)]
  exact (h.couples_resuming (Nat.le_succ n) _ fun id _ => h.ask id).wake
    upToLimit_whole.toSteady (upToLimit_shows _) (upToLimit_shows _) (.send v)

end Lasts

/-- **Three levels for each unit of gas are enough.** -/
theorem lasts (hlimit : Eval.gasCeiling ≤ limit) (n : Nat) : Lasts limit n := by
  induction n with
  | zero =>
    exact ⟨fun _ _ => Sim.throw _, fun _ _ => Sim.throw _, fun _ => Sim.throw _,
      fun _ _ => Sim.throw _, fun _ _ => Sim.throw _⟩
  | succ n ih => exact ih.succ hlimit

end Coupling

end MeteredScript
