import MeteredScript.Fault.TypeFault
import MeteredScript.Value.Basic

/-!
# Hash keys

Dicts and sets find an entry by the *key* of a value: a projection to a type
with decidable equality. Bools project to the numbers they count as, so that
`1` and `True` are one key. Tuples project item by item. Objects without
structural equality project to their identity. Lists, dicts and sets have no
key, since what they are equal to changes as they do.
-/

namespace MeteredScript

/-- Objects that are equal only to themselves, by their pointer. -/
inductive Identity where
  | function (id : FunctionId)
  | generator (id : GeneratorId)
  | classObject (scope : ScopeId)
  | method (serial : Serial)
  | exception (serial : Serial)
  deriving DecidableEq, Repr

/-- **Keys** of dict and set entries. -/
inductive HashKey where
  | none
  | int (n : Int64)
  | str (s : String)
  | tuple (items : List HashKey)
  | builtin (b : Builtin)
  | exceptionClass (kind : ExceptionKind)
  | identity (object : Identity)
  deriving Repr

instance : Inhabited HashKey := ⟨.none⟩

namespace HashKey

mutual

/-- Equality of keys, decided. -/
def decEq : (a b : HashKey) → Decidable (a = b)
  | none, none => isTrue rfl
  | int a, int b => decidable_of_iff (a = b) ⟨congrArg int, HashKey.int.inj⟩
  | str a, str b => decidable_of_iff (a = b) ⟨congrArg str, HashKey.str.inj⟩
  | tuple xs, tuple ys =>
    match decEqList xs ys with
    | isTrue h => isTrue (congrArg tuple h)
    | isFalse h => isFalse fun e => h (HashKey.tuple.inj e)
  | builtin a, builtin b => decidable_of_iff (a = b) ⟨congrArg builtin, HashKey.builtin.inj⟩
  | exceptionClass a, exceptionClass b =>
    decidable_of_iff (a = b) ⟨congrArg exceptionClass, HashKey.exceptionClass.inj⟩
  | identity a, identity b =>
    decidable_of_iff (a = b) ⟨congrArg identity, HashKey.identity.inj⟩
  | none, int _ | none, str _ | none, tuple _ | none, builtin _ | none, exceptionClass _
  | none, identity _ | int _, none | int _, str _ | int _, tuple _ | int _, builtin _
  | int _, exceptionClass _ | int _, identity _ | str _, none | str _, int _ | str _, tuple _
  | str _, builtin _ | str _, exceptionClass _ | str _, identity _ | tuple _, none
  | tuple _, int _ | tuple _, str _ | tuple _, builtin _ | tuple _, exceptionClass _
  | tuple _, identity _ | builtin _, none | builtin _, int _ | builtin _, str _
  | builtin _, tuple _ | builtin _, exceptionClass _ | builtin _, identity _
  | exceptionClass _, none | exceptionClass _, int _ | exceptionClass _, str _
  | exceptionClass _, tuple _ | exceptionClass _, builtin _ | exceptionClass _, identity _
  | identity _, none | identity _, int _ | identity _, str _ | identity _, tuple _
  | identity _, builtin _ | identity _, exceptionClass _ => isFalse nofun

/-- Equality of lists of keys, decided. -/
def decEqList : (xs ys : List HashKey) → Decidable (xs = ys)
  | [], [] => isTrue rfl
  | [], _ :: _ | _ :: _, [] => isFalse nofun
  | x :: xs, y :: ys =>
    match decEq x y with
    | isFalse h => isFalse fun e => h (List.cons.inj e).1
    | isTrue h =>
      match decEqList xs ys with
      | isTrue h' => isTrue (by rw [h, h'])
      | isFalse h' => isFalse fun e => h' (List.cons.inj e).2

end

instance : DecidableEq HashKey := decEq

end HashKey

namespace Value

mutual

/-- **The key of a value.** A list, dict or set has none, and neither has a
tuple that holds one; the error names the first such value found. -/
def hashKey : Value → Except TypeFault HashKey
  | none => .ok .none
  | bool b => .ok (.int (if b then 1 else 0))
  | int n => .ok (.int n)
  | str s => .ok (.str s)
  | tuple items => do return .tuple (← hashKeys items)
  | list id => .error (.unhashable (list id).typeName)
  | dict id => .error (.unhashable (dict id).typeName)
  | set id => .error (.unhashable (set id).typeName)
  | builtin b => .ok (.builtin b)
  | exceptionClass kind => .ok (.exceptionClass kind)
  | function id _ => .ok (.identity (.function id))
  | method serial _ _ => .ok (.identity (.method serial))
  | generator id _ => .ok (.identity (.generator id))
  | classObject _ id => .ok (.identity (.classObject id))
  | exception serial _ _ _ => .ok (.identity (.exception serial))

/-- The keys of several values, from the left. -/
def hashKeys : List Value → Except TypeFault (List HashKey)
  | [] => .ok []
  | v :: vs => do
    let key ← v.hashKey
    return key :: (← hashKeys vs)

end

end Value

end MeteredScript
