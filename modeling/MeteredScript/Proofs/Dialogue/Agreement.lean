import MeteredScript.Proofs.Coupling.Outcome
import MeteredScript.Proofs.Dialogue.Resumes

/-!
# Frames and recursion agree

Resuming a generator for each of the actions of its caller is playing its body,
and playing a body is telling it. So the two accounts of generator bodies meet
here: one of them comes to an end if the other does, and then they yield the same
values, end in the same way and leave the same machine
(`generator_frames_agree_with_recursion`).

Both are bounded in how deep they may recurse, and each needs enough room for the
other. As in all comparisons up to gas, nothing is said where gas runs out.
-/

namespace MeteredScript

open Coupling

variable {m m' : Machine} {id : GeneratorId} {body : Block} {actions : List Resume}
  {values : List Value} {ending : Option Stop}

/-- **The body of a generator told recursively**, to a caller who first starts it
and then does the given actions. -/
def toldBody (m : Machine) (id : GeneratorId) (bound : Nat) (body : Block)
    (actions : List Resume) : Except Stop (Except Halt Value × Dialogue) × Machine :=
  (Talk.runBody id.scope bound body ⟨actions, []⟩).on (m.driving id [.suite body])

/-- **The generator resumed**, to start it and then for each of the given
actions. -/
def resumedBody (m : Machine) (id : GeneratorId) (bound : Nat) (actions : List Resume) :
    Except Stop (List Value × Option Stop) × Machine :=
  (resumeAll (.bounded bound) id (.send .none :: actions)).on m

/-- **What resumes of a generator did is what telling its body does**: the same
values are yielded, the same is seen of the end, and the machine is the same but
for the gas that was used. -/
def Tells (m : Machine) (id : GeneratorId) (values : List Value) (ending : Option Stop)
    (m' : Machine) (told : Except Stop (Except Halt Value × Dialogue) × Machine) : Prop :=
  ∃ r d n, told = (.ok (r, d), n) ∧ d.yielded = values ∧ Halt.ending r = ending ∧
    ∃ state gas, Halt.Leaves r state ∧ m' = { m.resting n id state with gas }

/-- More room to recurse makes no difference to a body that comes to an end. -/
theorem toldBody_of_le {bound bound' : Nat} (h : bound ≤ bound')
    (hne : (toldBody m id bound body actions).1 ≠ .error .endless) :
    toldBody m id bound' body actions = toldBody m id bound body actions :=
  (roomier_complete.talkBody roomier_shows id.scope (.of_le trivial h) body
    ⟨actions, []⟩).extends _ hne

/-- A body that is played to an end is played so with more room. -/
theorem play_of_le {bound bound' : Nat} (h : bound ≤ bound') (scope : ScopeId) (fuel : Nat)
    (progress : Progress) (d : Dialogue) :
    (play (.bounded bound) scope fuel progress d).Extends
      (play (.bounded bound') scope fuel progress d) :=
  ((roomier_bounded h).play roomier_complete.toSteady roomier_shows scope fuel progress d).extends

/-! ## What is resumed is told -/

/-- Resumes do what is told with enough room. -/
theorem tells_of_resumed {bound : Nat}
    (hstate : m.scopes.generator? id.scope = some (.notStarted body))
    (hdepth : m.depth < m.config.maxCallDepth)
    (hall : resumedBody m id (bound + 1) actions = (.ok (values, ending), m'))
    (hgas : ¬ m'.Spent) :
    ∃ enough, ∀ n ≥ enough, ¬ (toldBody m id n body actions).2.Spent →
      Tells m id values ending m' (toldBody m id n body actions) := by
  obtain ⟨k, r, d, n₁, hrests, hplay⟩ := plays_of_notStarted hstate hdepth hall
  obtain ⟨state, hleaves, rfl⟩ := hrests.machine
  refine ⟨bound + (k + 0 + 1), fun n hn hspent => ?_⟩
  have hfollows : (upToGas True False).Sim
      (play (.bounded bound) id.scope (k + 0 + 1) (.onward [.suite body]) ⟨actions, []⟩)
      (Talk.runBody id.scope n body ⟨actions, []⟩) :=
    follows_body (t := .limited trivial (k + 0 + 1)) hn body ⟨actions, []⟩
  have hsame : (upToGas True False).Related () (m.driving id [.suite body])
      (m.driving id [.suite body]) := ⟨⟨_, _, rfl⟩, False.elim⟩
  have hagree := hfollows.agree hsame
  have hburns := hfollows.left upToGas_lenient (m.driving id [.suite body])
  have hburns' := hfollows.right upToGas_lenient (m.driving id [.suite body])
  rw [hplay 0] at hagree hburns
  change (upToGas True False).Agree () _ _ (toldBody m id n body actions) at hagree
  change Machine.Burns _ (toldBody m id n body actions).2 at hburns'
  generalize toldBody m id n body actions = told at hagree hburns' hspent ⊢
  cases hagree with
  | ok _ hR =>
    obtain ⟨⟨gas, limit, rfl⟩, -⟩ := hR
    obtain rfl : limit = n₁.config.gasLimit :=
      congrArg Config.gasLimit (hburns'.1.trans hburns.1.symm)
    exact ⟨r, d, _, rfl, by simpa using hrests.yielded, hrests.ending, state, n₁.gas, hleaves, rfl⟩
  | endlessRight hp => exact hp.elim
  | excused he =>
    rcases he with he | he
    · exact absurd he hgas
    · exact absurd he hspent
  | parted _ hp => exact hp.elim

/-! ## What is told is resumed -/

/-- **Where gas does not run out**, a body that is told to an end is played to an
end. -/
theorem exists_play_of_told {n : Nat} (hu : m.Unmetered)
    (hne : (toldBody m id n body actions).1 ≠ .error .endless) :
    ∃ fuel, ((play (.bounded n) id.scope fuel (.onward [.suite body]) ⟨actions, []⟩).on
      (m.driving id [.suite body])).1 ≠ .error .endless := by
  have hfollows : (upToGas False True).Sim
      (playOut (.bounded n) id.scope (.onward [.suite body]) ⟨actions, []⟩)
      (Talk.runBody id.scope n body ⟨actions, []⟩) :=
    follows_body (t := .free trivial) (Nat.le_refl n) body ⟨actions, []⟩
  have hu' : (m.driving id [.suite body]).Unmetered := hu
  have hsame : (upToGas False True).Related () (m.driving id [.suite body])
      (m.driving id [.suite body]) := ⟨⟨_, _, rfl⟩, fun _ => ⟨hu', hu'⟩⟩
  have hagree := hfollows.agree hsame
  have hburns := hfollows.left upToGas_lenient (m.driving id [.suite body])
  have hburns' := hfollows.right upToGas_lenient (m.driving id [.suite body])
  change (upToGas False True).Agree () _ _ (toldBody m id n body actions) at hagree
  change Machine.Burns _ (toldBody m id n body actions).2 at hburns'
  have hplayed : ((playOut (.bounded n) id.scope (.onward [.suite body]) ⟨actions, []⟩).on
      (m.driving id [.suite body])).1 ≠ .error .endless := by
    generalize toldBody m id n body actions = told at hagree hburns' hne
    generalize (playOut (.bounded n) id.scope (.onward [.suite body]) ⟨actions, []⟩).on
      (m.driving id [.suite body]) = played at hagree hburns ⊢
    cases hagree with
    | ok _ _ => simp
    | stop hs _ => simpa using hs
    | endless _ => exact absurd rfl hne
    | endlessLeft hp => exact hp.elim
    | endlessRight _ => exact absurd rfl hne
    | excused he =>
      rcases he with he | he
      · exact absurd he (hu'.mono hburns).not_spent
      · exact absurd he (hu'.mono hburns').not_spent
    | parted _ hp => exact hp.elim
  obtain ⟨fuel, hfuel⟩ := (playOut_eq_iff _ hplayed).1 rfl
  exact ⟨fuel, by rw [hfuel]; exact hplayed⟩

namespace Coupling

/-- Resuming a generator again and again does the same in both runs. -/
theorem Couples.resumeAll {c : Coupling} [c.United] {ev ev' : Evaluator} (h : c.Couples ev ev')
    (id : GeneratorId) (actions : List Resume) :
    c.Sim (resumeAll ev id actions) (resumeAll ev' id actions) := by
  induction actions with
  | nil => exact Sim.pure _
  | cons action actions ih =>
    refine SimOf.bind (SimTo.attempt (h.resume id action)).of_united fun r _ => ?_
    match r with
    | .ok v => exact Sim.bind ih fun _ => Sim.pure _
    | .error s => exact Sim.pure _

end Coupling

/-- A body that is told to an end is told so where gas does not run out. -/
theorem toldBody_unmetered {n : Nat} (hne : (toldBody m id n body actions).1 ≠ .error .endless)
    (hspent : ¬ (toldBody m id n body actions).2.Spent) :
    (toldBody m.unmetered id n body actions).1 ≠ .error .endless := by
  have hsim : (upToGas False False).Talks (Talk.runBody id.scope n body) _ :=
    upToGas_complete.talkBody upToGas_shows id.scope (.refl n) body
  have hsame : SameButGas (toldBody m id n body actions) (toldBody m.unmetered id n body actions) :=
    (hsim ⟨actions, []⟩).sameButGas_unmetered hspent
  rwa [hsame.1]

/-- Resumes that come to an end where gas does not run out come to an end, unless
it runs out. -/
theorem resumedBody_of_unmetered {bound : Nat}
    (hspent : ¬ (resumedBody m id bound actions).2.Spent)
    (hall : ∃ result m', resumedBody m.unmetered id bound actions = (.ok result, m')) :
    ∃ result m', resumedBody m id bound actions = (.ok result, m') := by
  obtain ⟨result, m', hall⟩ := hall
  have hsim : (upToGas False False).Sim
      (resumeAll (.bounded bound) id (.send .none :: actions)) _ :=
    (couples_self bound).resumeAll id (.send .none :: actions)
  have hsame : SameButGas (resumedBody m id bound actions)
    (resumedBody m.unmetered id bound actions) := hsim.sameButGas_unmetered hspent
  rw [hall] at hsame
  exact ⟨result, (resumedBody m id bound actions).2, Prod.ext hsame.1.symm rfl⟩

/-- **Resumes come to an end** if telling the body does, given enough room. -/
theorem ends_of_told {n : Nat}
    (hstate : m.scopes.generator? id.scope = some (.notStarted body))
    (hdepth : m.depth < m.config.maxCallDepth)
    (hne : (toldBody m id n body actions).1 ≠ .error .endless)
    (hspent : ¬ (toldBody m id n body actions).2.Spent) :
    ∃ enough, ∀ bound ≥ enough, ¬ (resumedBody m id bound actions).2.Spent →
      ∃ result m', resumedBody m id bound actions = (.ok result, m') := by
  obtain ⟨fuel, hfuel⟩ :=
    exists_play_of_told m.unmetered_unmetered (toldBody_unmetered hne hspent)
  refine ⟨max n fuel + 1, fun bound hbound hspent' => resumedBody_of_unmetered hspent' ?_⟩
  obtain ⟨bound, rfl⟩ : ∃ k, bound = k + 1 := ⟨bound - 1, by omega⟩
  have hle : n ≤ bound := by omega
  rw [← play_of_le hle id.scope fuel _ _ _ hfuel] at hfuel
  exact ends_of_notStarted hstate hdepth (by omega) hfuel

/-! ## Both agree -/

/-- **The machine of frames does what the recursive rules say.** Resumes of a
generator that come to an end do what is told of its body, given enough room to
tell it. A body that is told to an end is what resumes do, given enough room for
them. -/
theorem generator_frames_agree_with_recursion (m : Machine) (id : GeneratorId) (body : Block)
    (hstate : (m.generator id).state = .notStarted body) (hdepth : m.depth < m.config.maxCallDepth)
    (actions : List Resume) :
    (∀ bound values ending m', resumedBody m id bound actions = (.ok (values, ending), m') →
      ¬ m'.Spent → ∃ enough, ∀ n ≥ enough, ¬ (toldBody m id n body actions).2.Spent →
        Tells m id values ending m' (toldBody m id n body actions)) ∧
    (∀ n, (toldBody m id n body actions).1 ≠ .error .endless →
      ¬ (toldBody m id n body actions).2.Spent →
      ∃ enough, ∀ bound ≥ enough, ¬ (resumedBody m id bound actions).2.Spent →
        ∃ values ending m', resumedBody m id bound actions = (.ok (values, ending), m') ∧
          Tells m id values ending m' (toldBody m id n body actions)) := by
  have hsome : m.scopes.generator? id.scope = some (.notStarted body) := by
    rw [Machine.generator] at hstate
    cases hs : m.scopes.generator? id.scope with
    | none =>
      rw [hs] at hstate
      cases hstate
    | some state =>
      rw [hs] at hstate
      exact congrArg some hstate
  have htells {bound : Nat} {values : List Value} {ending : Option Stop} {m' : Machine}
      (hall : resumedBody m id bound actions = (.ok (values, ending), m')) (hgas : ¬ m'.Spent) :
      ∃ enough, ∀ n ≥ enough, ¬ (toldBody m id n body actions).2.Spent →
        Tells m id values ending m' (toldBody m id n body actions) := by
    cases bound with
    | zero =>
      have hend : (resumedBody m id 0 actions).1 = .error .endless := rfl
      rw [hall] at hend
      cases hend
    | succ bound => exact tells_of_resumed hsome hdepth hall hgas
  refine ⟨fun bound values ending m' => htells, fun n hne hspent => ?_⟩
  obtain ⟨enough, henough⟩ := ends_of_told hsome hdepth hne hspent
  refine ⟨enough, fun bound hbound hgas => ?_⟩
  obtain ⟨⟨values, ending⟩, m', hall⟩ := henough bound hbound hgas
  rw [hall] at hgas
  obtain ⟨room, hroom⟩ := htells hall hgas
  -- what is told to an end is told so with more room
  have heq := toldBody_of_le (Nat.le_max_left n room) hne
  have htold := hroom (max n room) (Nat.le_max_right n room) (by rw [heq]; exact hspent)
  rw [heq] at htold
  exact ⟨values, ending, m', hall, htold⟩

/-- A body that yields in each part of a `try` statement. -/
def guardedYields : Block :=
  let yields (n : Int64) : Block := [StmtForm.synthetic (.expr (.yield (some (.int n))))]
  [StmtForm.synthetic (.attempt (yields 1) [⟨some (.name "ValueError"), some "e", yields 2⟩] none
    (some (yields 3)))]

/-- A machine with a generator that has not started. -/
def Machine.starting (body : Block) : Machine :=
  { Machine.initial .standard with
    scopes := ⟨#[⟨.function, .empty, none, some (.notStarted body)⟩]⟩ }

/-- An exception raised at the first `yield` is handled at the second, and the
third is in the `finally` block. -/
theorem generator_frames_agree_on_guardedYields :
    ∃ enough, ∀ bound ≥ enough,
      let m := Machine.starting guardedYields
      let actions := [.throw (.bare .valueError), .send .none, .send .none]
      ¬ (resumedBody m ⟨⟨0⟩⟩ bound actions).2.Spent →
        ∃ m', resumedBody m ⟨⟨0⟩⟩ bound actions =
          (.ok ([.int 1, .int 2, .int 3], some (.fault (.exhausted .none))), m') := by
  have htold : (toldBody (Machine.starting guardedYields) ⟨⟨0⟩⟩ 10 guardedYields
      [.throw (.bare .valueError), .send .none, .send .none]).1 =
        .ok (.ok .none, ⟨[], [.int 1, .int 2, .int 3]⟩) := by rfl
  have hgas : ¬ (toldBody (Machine.starting guardedYields) ⟨⟨0⟩⟩ 10 guardedYields
      [.throw (.bare .valueError), .send .none, .send .none]).2.Spent := by
    unfold Machine.Spent
    decide
  obtain ⟨enough, henough⟩ := (generator_frames_agree_with_recursion
    (Machine.starting guardedYields) ⟨⟨0⟩⟩ guardedYields rfl (by decide) _).2 10
      (by rw [htold]; simp) hgas
  refine ⟨enough, fun bound hbound hspent => ?_⟩
  obtain ⟨values, ending, m', hall, r, d, n, heq, rfl, rfl, -⟩ := henough bound hbound hspent
  rw [heq] at htold
  cases htold
  exact ⟨m', hall⟩

end MeteredScript
