import MeteredScript.Proofs.Coupling.Bounded
import MeteredScript.Proofs.Coupling.Bracket

/-!
# Runs that differ in their gas

Gas is counted and never looked at, unless there is none left. So two machines
that differ only in the gas used, and in the gas that may be used, run alike, and
nothing is said about them any more once one of them has used more than it may
(`upToGas`).
-/

namespace MeteredScript

/-- So much gas may be used that it does not run out. -/
def Machine.Unmetered (m : Machine) : Prop := Eval.gasCeiling ≤ m.config.gasLimit

/-- The machine with another gas counter and limit. -/
def Machine.withGas (m : Machine) (gas limit : Nat) : Machine :=
  { m with gas, config := { m.config with gasLimit := limit } }

namespace Machine

variable {m n : Machine}

theorem Unmetered.not_spent (h : m.Unmetered) : ¬ m.Spent := by
  unfold Unmetered at h
  unfold Spent
  omega

theorem Unmetered.mono (h : m.Unmetered) (hb : m.Burns n) : n.Unmetered := by
  unfold Unmetered
  rw [hb.1]
  exact h

end Machine

namespace Coupling

variable {α β : Type} {left right : Prop} {P : α → Prop}

/-- **Machines that differ only in their gas**, where perhaps nothing is said about
a left or a right run without end. Nothing is said about a right run without end
only if neither machine can run out of gas. -/
def upToGas (left right : Prop) : Coupling where
  World := Unit
  Related _ m m' := (∃ gas limit, m' = m.withGas gas limit) ∧
    (right → m.Unmetered ∧ m'.Unmetered)
  Left := Machine.Burns
  Right := Machine.Burns
  Excused m m' := m.Spent ∨ m'.Spent
  patientLeft := left
  patientRight := right
  hidden _ := False
  left_refl := Machine.Burns.refl
  left_trans := Machine.Burns.trans
  right_refl := Machine.Burns.refl
  right_trans := Machine.Burns.trans
  excused_mono h hl hr := h.imp (·.mono hl) (·.mono hr)
  shown_of_excused _ _ := not_false

theorem upToGas_shows (names : List String) : (upToGas left right).Shows names := by
  simp [Shows, upToGas]

theorem upToGas_related {m n : Machine} {gas limit : Nat} (hu : right → m.Unmetered ∧ n.Unmetered)
    (h : n = m.withGas gas limit) : (upToGas left right).Related () m n :=
  ⟨⟨gas, limit, h⟩, hu⟩

/-- An evaluation that does not use gas does the same whatever was used
before. -/
theorem upToGas_blind {x : Eval α} (hP : ∀ a, P a)
    (hx : ∀ (m : Machine) gas limit,
      x.on (m.withGas gas limit) = ((x.on m).1, (x.on m).2.withGas gas limit))
    (hburns : ∀ m : Machine, m.Burns (x.on m).2) : (upToGas left right).SimOf P x x where
  total _ := hP
  left _ := hburns
  right _ := hburns
  agree := by
    rintro w m _ ⟨⟨gas, limit, rfl⟩, hu⟩
    have hn := hburns m
    have hn' := hburns (m.withGas gas limit)
    rw [hx m gas limit] at hn' ⊢
    generalize x.on m = o at hn hn' ⊢
    obtain ⟨r, n⟩ := o
    have hR : (upToGas left right).Related w n (n.withGas gas limit) :=
      upToGas_related (fun hr => ⟨(hu hr).1.mono hn, (hu hr).2.mono hn'⟩) rfl
    cases r with
    | ok a => exact .ok (hP a) hR
    | error s =>
      by_cases hs : s = .endless
      · subst hs
        exact .endless trivial
      · exact .stop hs hR

theorem upToGas_modify {f : Machine → Machine}
    (hf : ∀ (m : Machine) gas limit, f (m.withGas gas limit) = (f m).withGas gas limit)
    (hburns : ∀ m : Machine, m.Burns (f m)) :
    (upToGas left right).Sim (modify f : Eval Unit) (modify f) :=
  upToGas_blind (fun _ => trivial)
    (fun m gas limit => by rw [Eval.on_modify, Eval.on_modify, hf]) hburns

theorem upToGas_charge (amount : Nat) :
    (upToGas left right).Sim (Eval.charge amount) (Eval.charge amount) := by
  refine ⟨fun _ _ => trivial, fun _ => Machine.burns_charge amount,
    fun _ => Machine.burns_charge amount, ?_⟩
  rintro w m _ ⟨⟨gas, limit, rfl⟩, hu⟩
  rw [Eval.on_charge, Eval.on_charge]
  -- a charge fails only where it leaves a machine that is spent
  have hspent (m : Machine) (h : m.config.gasLimit < min (m.gas + amount) Eval.gasCeiling) :
      Machine.Spent { m with gas := min (m.gas + amount) Eval.gasCeiling } := by
    unfold Machine.Spent
    dsimp only
    omega
  split
  · rename_i h
    exact .excused (.inl (hspent m h))
  · split
    · rename_i h
      exact .excused (.inr (hspent (m.withGas gas limit) h))
    · exact .ok trivial (upToGas_related hu rfl)

theorem upToGas_lenient : (upToGas left right).Lenient := by
  have hspent : Machine.Spent { Machine.initial ⟨0, 0⟩ with gas := 1 } := by
    unfold Machine.Spent
    decide
  exact ⟨_, .initial ⟨0, 0⟩, .inl (.inl hspent)⟩

instance : (upToGas left right).United := ⟨fun _ _ _ h => h⟩

theorem upToGas_newScope (kind : ScopeKind) (parent : Option ScopeId) :
    (upToGas left right).Sim (Eval.newScope kind parent) (Eval.newScope kind parent) :=
  upToGas_blind (fun _ => trivial) (fun _ _ _ => rfl) fun _ => .of_eq rfl rfl

/-- Changing the depth of calls. -/
theorem upToGas_depth (f : Nat → Nat) :
    (upToGas left right).Sim (modify fun m => { m with depth := f m.depth } : Eval Unit)
      (modify fun m => { m with depth := f m.depth }) :=
  upToGas_modify (fun _ _ _ => rfl) fun _ => .of_eq rfl rfl

/-- Changing the list of faults being handled. -/
theorem upToGas_handling (f : List Fault → List Fault) :
    (upToGas left right).Sim (modify fun m => { m with handling := f m.handling } : Eval Unit)
      (modify fun m => { m with handling := f m.handling }) :=
  upToGas_modify (fun _ _ _ => rfl) fun _ => .of_eq rfl rfl

theorem upToGas_lawful : (upToGas left right).Lawful where
  heap_eq := by
    rintro w m _ ⟨⟨gas, limit, rfl⟩, -⟩
    rfl
  handled_eq := by
    rintro w m _ ⟨⟨gas, limit, rfl⟩, -⟩
    rfl
  function_eq := by
    rintro w m _ ⟨⟨gas, limit, rfl⟩, -⟩ id
    rfl
  function_shown _ _ := upToGas_shows _
  own_eq := by
    rintro w m _ ⟨⟨gas, limit, rfl⟩, -⟩ s name _
    rfl
  find_eq := by
    rintro w m _ ⟨⟨gas, limit, rfl⟩, -⟩ s name _
    rfl
  charge := upToGas_charge
  modifyHeap f := upToGas_modify (fun _ _ _ => rfl) fun _ => .of_eq rfl rfl
  place r := upToGas_blind (fun _ => trivial) (fun _ _ _ => rfl) fun _ => .of_eq rfl rfl
  newSerial := upToGas_blind (fun _ => trivial) (fun _ _ _ => rfl) fun _ => .of_eq rfl rfl
  newFunction name f _ := upToGas_blind (fun _ => trivial) (fun _ _ _ => rfl) fun _ => .of_eq rfl rfl
  print line := upToGas_modify (fun _ _ _ => rfl) fun _ => .of_eq rfl rfl
  abort := upToGas_modify (fun _ _ _ => rfl) fun _ => .of_eq rfl rfl
  define v _ := upToGas_modify (fun _ _ _ => rfl) fun _ => .of_eq rfl rfl
  setAttribute object name v _ := by
    have hdefine (s : ScopeId) : (upToGas left right).Sim (Eval.define s name v)
        (Eval.define s name v) := upToGas_modify (fun _ _ _ => rfl) fun _ => .of_eq rfl rfl
    match object with
    | .classObject _ scope => exact hdefine scope
    | .int _ | .str _ | .bool _ | .none | .list _ | .tuple _ | .set _ | .dict _ | .function _ _
    | .builtin _ | .method _ _ _ | .generator _ _ | .exceptionClass _ | .exception _ _ _ _ =>
      exact Sim.fail _
  newScope := upToGas_newScope
  newGenerator kind parent body _ :=
    upToGas_blind (fun _ => trivial) (fun _ _ _ => rfl) fun _ => .of_eq rfl rfl
  newGeneratorExpression scope element first rest outer _ _ := by
    have hheap : (upToGas left right).Sim Eval.heap Eval.heap :=
      upToGas_blind (fun _ => trivial) (fun _ _ _ => rfl) fun _ => .refl _
    refine Sim.bind (upToGas_newScope _ _) fun inner => ?_
    refine Sim.bind (Sim.bind hheap fun h => Sim.ofFault _) fun _ => ?_
    refine Sim.bind (upToGas_modify (fun _ _ _ => rfl) fun _ => .of_eq rfl rfl) fun _ => ?_
    exact Sim.bind (upToGas_modify (fun _ _ _ => rfl) fun _ => .of_eq rfl rfl) fun _ => Sim.pure _
  inFrame h := by
    refine SimOf.inFrame ?_ upToGas_depth h
    rintro w m _ ⟨⟨gas, limit, rfl⟩, -⟩
    rfl
  whileHandling f _ _ h := Sim.whileHandling upToGas_handling f h

theorem upToGas_steady : (upToGas left right).Steady where
  pushHandling f := upToGas_handling (f :: ·)
  popHandling := upToGas_handling List.tail
  withHandled faults _ _ h := by
    refine SimOf.withHandled upToGas_handling ?_ faults h
    rintro w m _ ⟨⟨gas, limit, rfl⟩, -⟩
    rfl

/-- **Gas makes no difference** until it is spent. -/
theorem upToGas_complete : (upToGas left right).Complete where
  toLawful := upToGas_lawful
  toSteady := upToGas_steady
  setGeneratorState _ _ _ := upToGas_modify (fun _ _ _ => rfl) fun _ => .of_eq rfl rfl
  generatorState _ :=
    upToGas_blind (fun _ => upToGas_shows _) (fun _ _ _ => rfl) fun _ => .refl _

/-! ## Gas that only one run uses -/

/-- **Gas that is used** is used up, or makes no difference. -/
theorem on_attempt_tick (f : Except Stop Unit → Eval β) (m : Machine) :
    ∃ gas, m.Burns { m with gas } ∧
      ((Eval.attempt Eval.tick >>= f).on m = (f (.ok ())).on { m with gas } ∨
        Machine.Spent { m with gas } ∧ (Eval.attempt Eval.tick >>= f).on m =
          (f (.error .gasExhausted)).on { m with gas }) := by
  have htick := Eval.on_charge 1 m
  refine ⟨min (m.gas + 1) Eval.gasCeiling, ⟨rfl, by dsimp only; omega⟩, ?_⟩
  split at htick
  · rename_i hlt
    refine .inr ⟨?_, Eval.on_bind_ok (Eval.on_attempt_of_ne htick (by simp)) f⟩
    unfold Machine.Spent
    dsimp only
    omega
  · exact .inl (Eval.on_bind_ok (Eval.on_attempt_of_ne htick (by simp)) f)

/-- Gas that the left run uses makes no difference. -/
theorem upToGas_tick_left {f : Except Stop Unit → Eval β} {y : Eval β} {P : β → Prop}
    (hok : (upToGas left right).SimOf P (f (.ok ())) y)
    (herror : ∀ m, Machine.Burns m ((f (.error .gasExhausted)).on m).2) :
    (upToGas left right).SimOf P (Eval.attempt Eval.tick >>= f) y where
  total := hok.total
  left hl m := by
    obtain ⟨gas, hburns, heq | ⟨-, heq⟩⟩ := on_attempt_tick f m
    · rw [heq]
      exact hburns.trans (hok.left hl _)
    · rw [heq]
      exact hburns.trans (herror _)
  right := hok.right
  agree {w m m'} hR := by
    obtain ⟨⟨gas', limit, rfl⟩, hu⟩ := hR
    obtain ⟨gas, hburns, heq | ⟨hspent, heq⟩⟩ := on_attempt_tick f m
    · rw [heq]
      exact hok.agree (upToGas_related (fun hr => ⟨(hu hr).1.mono hburns, (hu hr).2⟩) rfl)
    · rw [heq]
      exact .excused (.inl (hspent.mono (herror _)))

/-- Gas that the right run uses makes no difference. -/
theorem upToGas_tick_right {x : Eval β} {f : Except Stop Unit → Eval β} {P : β → Prop}
    (hok : (upToGas left right).SimOf P x (f (.ok ())))
    (herror : ∀ m, Machine.Burns m ((f (.error .gasExhausted)).on m).2) :
    (upToGas left right).SimOf P x (Eval.attempt Eval.tick >>= f) where
  total := hok.total
  left := hok.left
  right hl m := by
    obtain ⟨gas, hburns, heq | ⟨-, heq⟩⟩ := on_attempt_tick f m
    · rw [heq]
      exact hburns.trans (hok.right hl _)
    · rw [heq]
      exact hburns.trans (herror _)
  agree {w m m'} hR := by
    obtain ⟨⟨gas', limit, rfl⟩, hu⟩ := hR
    obtain ⟨gas, hburns, heq | ⟨hspent, heq⟩⟩ := on_attempt_tick f (m.withGas gas' limit)
    · rw [heq]
      exact hok.agree (upToGas_related (fun hr => ⟨(hu hr).1, (hu hr).2.mono hburns⟩) rfl)
    · rw [heq]
      exact .excused (.inr (hspent.mono (herror _)))

end Coupling

end MeteredScript
