import MeteredScript.Proofs.Dialogue.Play
import MeteredScript.Proofs.Dialogue.Silent

/-!
# What follows on code that is run by frames

A body that is told recursively keeps what is left to do in the recursion. The
machine of frames keeps it in a list. So what is to be shown of a piece of code
is relative to some frames behind it: if going on with these frames is the same
as going on in some other way (`Continues`), then running the piece in front of
them is the same as telling it and going on in that way (`Follows`).

Both accounts agree, but for two reasons. What is played in a limited number of
turns is told, and nothing is said of a play that is out of turns. What is told
is played in as many turns as it takes, and nothing is said of a telling that is
out of room. `Turns` says which of the two is meant, so that one proof does for
both. Both accounts use gas, of which there may be more in one run than in the
other, and so the two are compared up to gas.
-/

namespace MeteredScript

open Coupling

/-! ## Turns -/

/-- **How many turns may be taken**: so many, if nothing is said about a left run
without end, or any number, if nothing is said about a right one. -/
inductive Turns (left right : Prop) where
  | limited (patient : left) (fuel : Nat)
  | free (patient : right)

namespace Turns

variable {left right : Prop}

/-- Hold a conversation in so many turns. -/
noncomputable def player (ev : Evaluator) (scope : ScopeId) : Turns left right → Player
  | limited _ fuel => play ev scope fuel
  | free _ => playOut ev scope

/-- One turn was taken of them. -/
inductive After : Turns left right → Turns left right → Prop
  | limited (patient : left) (fuel : Nat) :
    After (.limited patient (fuel + 1)) (.limited patient fuel)
  | free (patient : right) : After (.free patient) (.free patient)

/-- No more turns than others. -/
inductive Within : Turns left right → Turns left right → Prop
  | limited (patient : left) {fuel fuel' : Nat} : fuel' ≤ fuel →
    Within (.limited patient fuel') (.limited patient fuel)
  | free (patient : right) : Within (.free patient) (.free patient)

instance : LE (Turns left right) := ⟨Within⟩

variable {t t' t₁ t₂ t₃ : Turns left right}

theorem le_refl (t : Turns left right) : t ≤ t := by
  cases t with
  | limited hp fuel => exact .limited hp (Nat.le_refl _)
  | free hp => exact .free hp

theorem le_trans (h : t₁ ≤ t₂) (h' : t₂ ≤ t₃) : t₁ ≤ t₃ := by
  cases h with
  | limited hp hle =>
    cases h' with
    | limited _ hle' => exact .limited hp (Nat.le_trans hle hle')
  | free hp => exact h'

theorem After.le (h : After t t') : t' ≤ t := by
  cases h with
  | limited hp fuel => exact .limited hp (Nat.le_succ _)
  | free hp => exact .free hp

end Turns

/-! ## Taking a turn -/

section Turn

variable {left right : Prop} {ev : Evaluator} {scope : ScopeId} {frames : List Frame}
  {d : Dialogue} {y : Eval (Except Halt Value × Dialogue)}
  (hself : (upToGas left right).Couples ev ev)

include hself

theorem burns_player (t : Turns left right) (progress : Progress) (d : Dialogue) (m : Machine) :
    m.Burns ((t.player ev scope progress d).on m).2 := by
  have hplay (fuel : Nat) : m.Burns ((play ev scope fuel progress d).on m).2 :=
    ((hself.play upToGas_steady upToGas_shows scope fuel progress) d).left upToGas_lenient m
  cases t with
  | limited _ fuel => exact hplay fuel
  | free _ =>
    rcases Eval.on_limit (fun fuel => play ev scope fuel progress d) m with
      ⟨fuel, -, heq⟩ | ⟨-, heq⟩
    · rw [show (Turns.player ev scope (Turns.free _) progress d).on m = _ from heq]
      exact hplay fuel
    · rw [show (Turns.player ev scope (Turns.free _) progress d).on m = _ from heq]
      exact .refl m

theorem burns_playAfter (t : Turns left right) (s : Stop) (frames : List Frame) (d : Dialogue)
    (m : Machine) : m.Burns ((playAfter ev scope (t.player ev scope) s frames d).on m).2 := by
  have hrecover : m.Burns ((Eval.attempt (recover ev scope s frames)).on m).2 := by
    rw [on_attempt_snd]
    exact (hself.recover upToGas_steady s (upToGas_shows _)).left upToGas_lenient m
  rw [playAfter, playFrom, Talk.lift_bind_apply]
  refine hrecover.trans (evolves_of_bind Machine.Burns.refl _ (fun r n => ?_) m)
  cases r with
  | ok progress => exact burns_player hself t progress d n
  | error s => exact .refl n

/-- **To play is to take a turn** and to play on, unless there are no turns. -/
theorem sim_player (t : Turns left right) {progress : Progress}
    (hy : ∀ m, Machine.Burns m (y.on m).2)
    (h : ∀ t', t.After t' →
      (upToGas left right).Sim (playTurn ev scope (t'.player ev scope) progress d) y) :
    (upToGas left right).Sim (t.player ev scope progress d) y := by
  cases t with
  | limited hp fuel =>
    cases fuel with
    | zero => exact ⟨fun _ _ => trivial, fun _ => .refl, fun _ => hy, fun _ => .endlessLeft hp⟩
    | succ fuel => exact h _ (.limited hp fuel)
  | free hp =>
    have hturn := h _ (.free hp)
    refine ⟨fun _ _ => trivial, fun _ => burns_player hself (.free hp) progress d, fun _ => hy, ?_⟩
    intro w m m' hR
    have hmeets : (playOut ev scope progress d).Meets
        (playTurn ev scope (playOut ev scope) progress d) := playOut_meets progress
    have hagree := hturn.agree hR
    have hburns := hturn.left upToGas_lenient m
    change (upToGas left right).Agree w _ ((playOut ev scope progress d).on m) _
    change (upToGas left right).Agree w _
      ((playTurn ev scope (playOut ev scope) progress d).on m) _ at hagree
    change m.Burns ((playTurn ev scope (playOut ev scope) progress d).on m).2 at hburns
    by_cases hend : ((playOut ev scope progress d).on m).1 = .error .endless
    · -- the machine that an endless run leaves does not count
      have hend' :
          ((playTurn ev scope (playOut ev scope) progress d).on m).1 = .error .endless := by
        refine Classical.byContradiction fun hne => ?_
        rw [← (hmeets m _ hne).2 rfl] at hne
        exact hne hend
      obtain ⟨hu, hu'⟩ := hR.2 hp
      have hy' := hy m'
      generalize (playOut ev scope progress d).on m = o at hend
      generalize (playTurn ev scope (playOut ev scope) progress d).on m = o₁ at *
      generalize y.on m' = o' at *
      obtain ⟨r, n⟩ := o
      dsimp only at hend
      subst hend
      cases hagree with
      | ok ha hR => cases hend'
      | stop hs hR =>
        cases hend'
        exact absurd rfl hs
      | endless he => exact .endless he
      | endlessLeft hl => exact .endlessLeft hl
      | endlessRight hr => exact .endlessRight hr
      | excused he =>
        rcases he with he | he
        · exact absurd he (hu.mono hburns).not_spent
        · exact absurd he (hu'.mono hy').not_spent
      | parted _ hp => exact hp.elim
    · rw [(hmeets m _ hend).1 rfl] at hagree
      exact hagree

/-- **A turn** whose unit of work does what is to be done. -/
theorem sim_turn (t : Turns left right) {frame : Frame} (hy : ∀ m, Machine.Burns m (y.on m).2)
    (h : ∀ t', t.After t' → (upToGas left right).Sim
      (playStep ev scope (t'.player ev scope) (advanceFrame ev scope frame frames) frames d) y) :
    (upToGas left right).Sim (t.player ev scope (.onward (frame :: frames)) d) y := by
  refine sim_player hself t hy fun t' ht' => ?_
  rw [playTurn_onward]
  exact upToGas_tick_left (h t' ht') (burns_playAfter hself t' _ (frame :: frames) d)

end Turn

/-! ## Frames that continue -/

section Follow

variable {left right : Prop} {α β : Type}

/-- No gas is given back by what follows. -/
def Sequel.Burns (k : Sequel α) : Prop := ∀ r d m, Machine.Burns m ((k r d).on m).2

theorem Sequel.Burns.through {k : Sequel α} (hk : k.Burns) {u : Talk α}
    (hu : (upToGas left right).Talks u u) (d : Dialogue) (m : Machine) :
    m.Burns ((u.through k d).on m).2 :=
  ((hu d).left upToGas_lenient m).trans
    (evolves_of_bind Machine.Burns.refl (u d) (fun o n => hk o.1 o.2 n) m)

variable {ev ev' : Evaluator} {scope : ScopeId} {exec : Stmt → Talk Unit} {t : Turns left right}
  {frames : List Frame} {k : Sequel Unit}

/-- **The code in front of some frames may end in any way**, and what is done then
is done by the frames as well. -/
structure Continues (ev : Evaluator) (scope : ScopeId) (t : Turns left right)
    (frames : List Frame) (k : Sequel Unit) : Prop where
  burns : k.Burns
  go {t' : Turns left right} : t' ≤ t → ∀ d,
    (upToGas left right).Sim (t'.player ev scope (.onward frames) d) (k (.ok ()) d)
  stop {t' : Turns left right} : t' ≤ t → ∀ {s}, s ≠ .endless → ∀ d,
    (upToGas left right).Sim (playAfter ev scope (t'.player ev scope) s frames d)
      (k (.error (.stop s)) d)
  wait (d : Dialogue) :
    (upToGas left right).Sim (pure (.error .waiting, d)) (k (.error .waiting) d)

theorem Continues.mono (hk : Continues ev scope t frames k) {t' : Turns left right} (ht : t' ≤ t) :
    Continues ev scope t' frames k where
  burns := hk.burns
  go h := hk.go (Turns.le_trans h ht)
  stop h := hk.stop (Turns.le_trans h ht)
  wait := hk.wait

/-- **Frames do what is told**, in so many turns, whatever comes after it. -/
def Follows (ev : Evaluator) (scope : ScopeId) (exec : Stmt → Talk Unit) (t : Turns left right) :
    Prop :=
  ∀ t' ≤ t, ∀ block frames k, Continues ev scope t' frames k → ∀ d,
    (upToGas left right).Sim (t'.player ev scope (.onward (.suite block :: frames)) d)
      ((Talk.execBlock exec block).through k d)

theorem Follows.mono (h : Follows ev scope exec t) {t' : Turns left right} (ht : t' ≤ t) :
    Follows ev scope exec t' :=
  fun t'' ht'' => h t'' (Turns.le_trans ht'' ht)

theorem Follows.block (h : Follows ev scope exec t) (hk : Continues ev scope t frames k)
    (block : Block) (d : Dialogue) :
    (upToGas left right).Sim (t.player ev scope (.onward (.suite block :: frames)) d)
      ((Talk.execBlock exec block).through k d) :=
  h t t.le_refl block frames k hk d

theorem Follows.optional (ih : Follows ev scope exec t) (hk : Continues ev scope t frames k)
    (block : Option Block) (d : Dialogue) :
    (upToGas left right).Sim (t.player ev scope (.onward (suiteOf block frames)) d)
      ((Talk.execOptional exec block).through k d) := by
  cases block with
  | none => exact hk.go t.le_refl d
  | some block => exact ih.block hk block d

/-! ## Steps -/

/-- **The first part of a step** is what is told next. -/
theorem sim_step {x y : Eval α} (hxy : (upToGas left right).Sim x y) {next : Player}
    {f : α → Eval Progress} {g : α → Talk β} {k : Sequel β} {d : Dialogue}
    (hf : ∀ a, (upToGas left right).Sim (playStep ev scope next (f a) frames d)
      ((g a).through k d))
    (hs : ∀ {s}, s ≠ .endless → (upToGas left right).Sim (playAfter ev scope next s frames d)
      (k (.error (.stop s)) d)) :
    (upToGas left right).Sim (playStep ev scope next (x >>= f) frames d)
      ((Talk.lift y >>= g).through k d) := by
  rw [Talk.through_lift_bind, playStep, Eval.attempt_bind, bind_assoc]
  refine Sim.attempt_bind hxy (fun r hr => ?_) (.of_united _)
  cases r with
  | ok a => exact hf a
  | error s => exact hs (by simpa using hr)

/-- A step that stops, though not for want of an end. -/
theorem playStep_throw {next : Player} {s : Stop} (hs : s ≠ .endless) {d : Dialogue} :
    playStep ev scope next (throw s) frames d = playAfter ev scope next s frames d := by
  match s, hs with
  | .fault _, _ | .returns _, _ | .breaks, _ | .continues, _ | .gasExhausted, _ => rfl

/-- Telling may use gas first. -/
theorem sim_tick {x : Eval (Except Halt Value × Dialogue)} {u : Talk β} {k : Sequel β}
    {d : Dialogue} (h : (upToGas left right).Sim x (u.through k d)) (hk : k.Burns) :
    (upToGas left right).Sim x ((Talk.lift Eval.tick >>= fun _ => u).through k d) := by
  rw [Talk.through_lift_bind]
  exact upToGas_tick_right h (hk _ d)

end Follow

end MeteredScript
