import MeteredScript.Proofs.Comprehension.Draws

/-!
# Clauses and the loops that they stand for

A list comprehension goes through its clauses by recursion and collects an element in
each turn of the innermost. The generator runs the same clauses as `for` and `if`
statements inside one another around a `yield`. The proof follows the recursion over
the clauses: what one of them does with each item is the same on both sides, given
that this is so for the clauses inside it (`yields_clauses`).

The loops need more room to recurse than the clauses, a level for each statement.
-/

namespace MeteredScript

open Coupling

variable {α : Type} {k : ScopeId} {floor n bound : Nat}

/-- The levels of statements in the loops that clauses stand for. -/
def nesting : List Clause → Nat
  | [] => 1
  | c :: rest => nesting rest + c.conditions.length + 1

/-- The items that are handed over are those that were added. -/
def Adds (elements : Array Value) (elements' : Array Value) (_ : Unit) (items : List Value) :
    Prop :=
  elements'.toList = elements.toList ++ items

/-- What is added by what follows. -/
theorem Adds.trans {elements elements' elements'' : Array Value} {items items' : List Value}
    (h : Adds elements elements' () items) (h' : Adds elements' elements'' () items') :
    Adds elements elements'' () (items ++ items') := by
  unfold Adds at h h' ⊢
  rw [h', h, List.append_assoc]

/-! ## The element -/

/-- **The element is handed over.** -/
theorem yields_element (hle : n ≤ bound) {element : Expr} (helement : outerIterable ∉ element.names)
    (elements : Array Value) :
    Yields k floor (Adds elements)
      (do return elements.push (← (Evaluator.bounded n).eval element k))
      (Talk.execBlock (Talk.exec k (bound + 1)) (clausesToLoops element [])) := by
  have heval : (beside (some k) floor).Sim ((Evaluator.bounded n).eval element k)
      ((Evaluator.bounded bound).eval element k) :=
    (beside_bounded hle).eval (beside_shows_iff.2 helement)
  have hhand : Yields k floor (fun elements' _ items => Adds elements elements' () items)
      (do return elements.push (← (Evaluator.bounded n).eval element k))
      (Talk.yielded (.bounded bound) k (some element)) := by
    refine Yields.lift_bind heval fun v => Yields.handOver ?_
    simp [Adds]
  have hstmt : Yields k floor (Adds elements)
      (do return elements.push (← (Evaluator.bounded n).eval element k))
      (Talk.exec k (bound + 1) (StmtForm.synthetic (.expr (.yield (some element))))) :=
    Yields.tick (Yields.andThen hhand fun _ _ _ hadds => ⟨(), rfl, hadds⟩)
  exact Yields.andThen hstmt fun _ _ _ hadds => ⟨(), rfl, hadds⟩

/-! ## Conditions -/

/-- **Conditions** are those of `if` statements inside one another. -/
theorem yields_conditions (hle : n ≤ bound) {conditions : List Expr}
    (hconditions : outerIterable ∉ exprsNames conditions) {elements : Array Value}
    {x : Eval (Array Value)} {body : Block}
    (h : Yields k floor (Adds elements) x (Talk.execBlock (Talk.exec k bound) body)) :
    Yields k floor (Adds elements)
      (do if ← (Evaluator.bounded n).allHold k conditions then x else return elements)
      (Talk.execBlock (Talk.exec k (bound + conditions.length)) (guardedBy conditions body)) := by
  induction conditions with
  | nil => exact h
  | cons condition conditions ih =>
    rw [exprsNames, List.mem_append, not_or] at hconditions
    have hcouples : (beside (some k) floor).Couples (.bounded n)
        (.bounded (bound + conditions.length)) := beside_bounded (by omega)
    have hholds := hcouples.holds (s := k) (beside_shows_iff.2 hconditions.1)
    have hbranch : Yields k floor (Adds elements)
        (do
          if ← (Evaluator.bounded n).holds k condition then
            if ← (Evaluator.bounded n).allHold k conditions then x else return elements
          else return elements)
        (Talk.execForm (.bounded (bound + conditions.length))
          (Talk.exec k (bound + conditions.length)) k
          (.branch condition (guardedBy conditions body) none)) := by
      refine Yields.lift_bind hholds fun holds => ?_
      cases holds with
      | true => exact ih hconditions.2
      | false => exact Yields.pure (by simp [Adds])
    have hsame : (do
        if ← (Evaluator.bounded n).allHold k (condition :: conditions) then x
        else return elements) = (do
          if ← (Evaluator.bounded n).holds k condition then
            if ← (Evaluator.bounded n).allHold k conditions then x else return elements
          else return elements : Eval (Array Value)) := by
      rw [Evaluator.allHold, bind_assoc]
      refine bind_congr fun holds => ?_
      cases holds with
      | true => rfl
      | false => rfl
    rw [hsame]
    have hstmt := Yields.tick hbranch
    exact Yields.andThen hstmt fun _ _ _ hadds => ⟨(), rfl, hadds⟩

/-! ## Loops -/

/-- A round of a loop ends as its body does. -/
theorem Yields.runRound {elements : Array Value} {x : Eval (Array Value)}
    {exec : Stmt → Talk Unit} {body : Block}
    (h : Yields k floor (Adds elements) x (Talk.execBlock exec body)) :
    Yields k floor (fun elements' more items => more = true ∧ Adds elements elements' () items) x
      (Talk.runRound exec body) := by
  intro d m m' r p hR hx hr
  obtain ⟨r', items, p', hR', drawn, ends⟩ := h hR hx hr
  have hround (result : Except Stop Bool) (hend : roundEnd r' = result) :
      (Talk.runRound exec body).Draws m' result items p' := by
    have drawn := drawn.attempt.bind (f := fun r => Talk.ofStop (roundEnd r)) (.ofStop _ p')
    rw [List.append_nil, hend] at drawn
    exact drawn
  cases ends with
  | ok hadds => exact ⟨.ok true, items, p', hR', hround _ rfl, .ok ⟨rfl, hadds⟩⟩
  | fault f => exact ⟨.error (.fault f), items, p', hR', hround _ rfl, .fault f⟩

/-- **A loop over items** collects what its rounds hand over. -/
theorem yields_runFor (hle : n ≤ bound) {target : Expr} (htarget : outerIterable ∉ target.names)
    {inside : Array Value → Eval (Array Value)} {body : Block}
    (hinside : ∀ elements, Yields k floor (Adds elements) (inside elements)
      (Talk.execBlock (Talk.exec k bound) body))
    {turn : Array Value → Value → Eval (ForInStep (Array Value))}
    (hturn : ∀ elements item, turn elements item = do
      Eval.tick
      assignTarget (.bounded n) k target item
      return .yield (← inside elements))
    {rounds rounds' : Nat} (hrounds : rounds ≤ rounds') (cursor : Cursor)
    (elements : Array Value) :
    Yields k floor (fun elements' done items => done = true ∧ Adds elements elements' () items)
      ((Evaluator.bounded n).iterate turn rounds cursor elements)
      (Talk.runFor (.bounded bound) (Talk.exec k bound) k target body rounds' cursor) := by
  have hcouples : (beside (some k) floor).Couples (.bounded n) (.bounded bound) :=
    beside_bounded hle
  induction rounds generalizing rounds' cursor elements with
  | zero => exact Yields.endless
  | succ rounds ih =>
    obtain ⟨rounds', rfl⟩ : ∃ k, rounds' = k + 1 := ⟨rounds' - 1, by omega⟩
    refine Yields.lift_bind (hcouples.next? cursor) fun next => ?_
    match next with
    | none => exact Yields.pure ⟨rfl, by simp [Adds]⟩
    | some (item, cursor) =>
      dsimp only
      rw [hturn]
      simp only [bind_assoc, pure_bind]
      refine Yields.lift_bind hcouples.tick fun _ => ?_
      refine Yields.lift_bind (hcouples.assignTarget target item (beside_shows_iff.2 htarget))
        fun _ => ?_
      refine Yields.bind (hinside elements).runRound ?_
      rintro elements' _ items ⟨rfl, hadds⟩
      refine Yields.mono (ih (by omega) cursor elements') ?_
      rintro elements'' done items' ⟨hdone, hadds'⟩
      exact ⟨hdone, hadds.trans hadds'⟩

/-- What a clause does with each item that it has bound. -/
def collectGuarded (ev : Evaluator) (scope : ScopeId) (element : Eval Value)
    (conditions : List Expr) (rest : List Clause) (elements : Array Value) :
    Eval (Array Value) := do
  if ← ev.allHold scope conditions then collectElements ev scope element rest none elements
  else return elements

/-- The turn of a loop binds an item and collects what the clauses inside give. -/
theorem collectElements_turn (ev : Evaluator) (element : Eval Value) (c : Clause)
    (rest : List Clause) (elements : Array Value) (item : Value) :
    (do
      Eval.tick
      assignTarget ev k c.target item
      if ← ev.allHold k c.conditions then
        return .yield (← collectElements ev k element rest none elements)
      else return .yield elements : Eval (ForInStep (Array Value))) = do
      Eval.tick
      assignTarget ev k c.target item
      return .yield (← collectGuarded ev k element c.conditions rest elements) := by
  unfold collectGuarded
  simp only [bind_assoc]
  refine bind_congr fun _ => bind_congr fun _ => bind_congr fun holds => ?_
  cases holds with
  | true => rfl
  | false => rfl

/-- A clause whose iterable has a value is the loop over it. -/
theorem yields_items (hle : n ≤ bound) {element : Expr} {c : Clause} {rest : List Clause}
    (hc : outerIterable ∉ c.target.names) (hconditions : outerIterable ∉ exprsNames c.conditions)
    (hinside : ∀ elements, Yields k floor (Adds elements)
      (collectElements (.bounded n) k ((Evaluator.bounded n).eval element k) rest none elements)
      (Talk.execBlock (Talk.exec k bound) (clausesToLoops element rest)))
    (v : Value) (elements : Array Value) :
    Yields k floor (Adds elements)
      (collectElements (.bounded n) k ((Evaluator.bounded n).eval element k) (c :: rest) (some v)
        elements)
      (do
        let cursor ← Talk.lift (Evaluator.startIteration v)
        if ← Talk.runFor (.bounded (bound + c.conditions.length))
          (Talk.exec k (bound + c.conditions.length)) k c.target
          (guardedBy c.conditions (clausesToLoops element rest))
          (Evaluator.bounded (bound + c.conditions.length)).rounds cursor
        then pure ()) := by
  have hcouples : (beside (some k) floor).Couples (.bounded n)
      (.bounded (bound + c.conditions.length)) := beside_bounded (by omega)
  rw [collectElements, clauseIterable, pure_bind]
  refine Yields.lift_bind (hcouples.startIteration v) fun cursor => ?_
  rw [rounds_bounded, rounds_bounded]
  have hmore : n ≤ bound + c.conditions.length := by omega
  have hloop := yields_runFor hmore hc
    (fun elements => yields_conditions hle hconditions (hinside elements))
    (fun elements item => collectElements_turn (.bounded n) _ c rest elements item)
    hmore cursor elements
  refine Yields.andThen hloop ?_
  rintro elements' _ items ⟨rfl, hadds⟩
  exact ⟨(), rfl, hadds⟩

/-- A clause evaluates its iterable first. -/
theorem collectElements_cons (ev : Evaluator) (element : Eval Value) (c : Clause)
    (rest : List Clause) (elements : Array Value) :
    collectElements ev k element (c :: rest) none elements =
      ev.eval c.iterable k >>= fun v =>
        collectElements ev k element (c :: rest) (some v) elements := rfl

/-- **The loops hand over what the clauses collect.** -/
theorem yields_clauses {element : Expr} (helement : outerIterable ∉ element.names)
    {clauses : List Clause} (hclauses : outerIterable ∉ clausesNames clauses)
    (hle : n + nesting clauses ≤ bound) (elements : Array Value) :
    Yields k floor (Adds elements)
      (collectElements (.bounded n) k ((Evaluator.bounded n).eval element k) clauses none elements)
      (Talk.execBlock (Talk.exec k bound) (clausesToLoops element clauses)) := by
  induction clauses generalizing bound elements with
  | nil =>
    rw [nesting] at hle
    obtain ⟨bound, rfl⟩ : ∃ k, bound = k + 1 := ⟨bound - 1, by omega⟩
    exact yields_element (by omega) helement elements
  | cons c rest ih =>
    rw [nesting] at hle
    obtain ⟨bound, rfl⟩ : ∃ k, bound = k + c.conditions.length + 1 :=
      ⟨bound - c.conditions.length - 1, by omega⟩
    obtain ⟨target, iterable, conditions⟩ := c
    simp only [clausesNames, List.mem_append, not_or] at hclauses
    obtain ⟨⟨⟨htarget, hiterable⟩, hconditions⟩, hrest⟩ := hclauses
    dsimp only at hle ⊢
    have hcouples : (beside (some k) floor).Couples (.bounded n)
        (.bounded (bound + conditions.length)) := beside_bounded (by omega)
    have hless : n ≤ bound := by omega
    have hitems := yields_items (c := ⟨target, iterable, conditions⟩) hless htarget hconditions
      (fun elements => ih hrest (by omega) elements)
    have hloop : Yields k floor (Adds elements)
        ((Evaluator.bounded n).eval iterable k >>= fun v =>
          collectElements (.bounded n) k ((Evaluator.bounded n).eval element k)
            (⟨target, iterable, conditions⟩ :: rest) (some v) elements)
        (Talk.execForm (.bounded (bound + conditions.length))
          (Talk.exec k (bound + conditions.length)) k
          (.forLoop target iterable (guardedBy conditions (clausesToLoops element rest)) none)) :=
      Yields.lift_bind (hcouples.eval (beside_shows_iff.2 hiterable)) fun v => hitems v elements
    rw [collectElements_cons]
    have hstmt := Yields.tick hloop
    exact Yields.andThen hstmt fun _ _ _ hadds => ⟨(), rfl, hadds⟩

end MeteredScript
