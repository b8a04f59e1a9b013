import Mathlib
import MeteredScript.Proofs.Printing.Quoted
import MeteredScript.Value.Basic

/-!
# Data and how they are written

A *datum* is a value of the script as a tree: `None`, bools, ints and strings at
the leaves, lists, tuples, dicts and sets above them. Here it is only about the
text that such a tree is printed as (`Datum.chars`), and that no other tree is
printed as the same text.

The text of a tree is read from the left. Its first character tells the sort of
the tree (`Opening`), except that dicts and sets that are not empty both begin
with a brace. It ends at its closing bracket or quote. Only the end of an int
cannot be told from the int itself, and there it matters what follows. Hence
`Datum.Readable`: a tree is told apart from any other, and its end found, if what
follows begins no datum (`Ends`), which is so at each place where a datum can
stand in another.
-/

namespace MeteredScript

/-- **Data.** -/
inductive Datum where
  | none
  | bool (b : Bool)
  | int (n : Int64)
  | str (s : String)
  | list (items : List Datum)
  | tuple (items : List Datum)
  | dict (entries : List (Datum × Datum))
  | set (items : List Datum)

namespace Datum

/-- Texts with commas between them. -/
def commas (texts : List (List Char)) : List Char := [',', ' '].intercalate texts

mutual

/-- **The text of a datum.** -/
def chars : Datum → List Char
  | none => ['N', 'o', 'n', 'e']
  | bool true => ['T', 'r', 'u', 'e']
  | bool false => ['F', 'a', 'l', 's', 'e']
  | int n => (toString n.toInt).toList
  | str s => Text.quoteChars s.toList
  | list items => '[' :: (commas (allChars items) ++ [']'])
  | tuple items =>
    '(' :: (commas (allChars items) ++ if items.length = 1 then [',', ')'] else [')'])
  | dict entries => '\x7b' :: (commas (entriesChars entries) ++ ['\x7d'])
  | set [] => ['s', 'e', 't', '(', ')']
  | set (d :: ds) => '\x7b' :: (commas (d.chars :: allChars ds) ++ ['\x7d'])

/-- The texts of several data. -/
def allChars : List Datum → List (List Char)
  | [] => []
  | d :: ds => d.chars :: allChars ds

/-- The texts of dict entries. -/
def entriesChars : List (Datum × Datum) → List (List Char)
  | [] => []
  | (key, value) :: es => (key.chars ++ ':' :: ' ' :: value.chars) :: entriesChars es

end

theorem allChars_eq_map (ds : List Datum) : allChars ds = ds.map chars := by
  induction ds with
  | nil => rfl
  | cons d ds ih => rw [allChars, ih, List.map_cons]

/-- The text of one dict entry. -/
def entryChars (e : Datum × Datum) : List Char := e.1.chars ++ ':' :: ' ' :: e.2.chars

theorem entriesChars_eq_map (es : List (Datum × Datum)) :
    entriesChars es = es.map entryChars := by
  induction es with
  | nil => rfl
  | cons e es ih =>
    obtain ⟨key, value⟩ := e
    rw [entriesChars, ih, List.map_cons, entryChars]

/-- The text after the first of several texts with commas between them. -/
def more (texts : List (List Char)) : List Char := texts.flatMap fun t => ',' :: ' ' :: t

theorem commas_cons (t : List Char) (ts : List (List Char)) :
    commas (t :: ts) = t ++ more ts := by
  induction ts generalizing t with
  | nil => simp [commas, more]
  | cons t' ts ih =>
    rw [commas, List.intercalate_cons_cons, ← commas, ih, more, more, List.flatMap_cons]
    simp

/-- **Induction on data**, through lists, tuples, sets and both halves of dict
entries. -/
@[elab_as_elim]
theorem induct {motive : Datum → Prop} (none : motive .none) (bool : ∀ b, motive (.bool b))
    (int : ∀ n, motive (.int n)) (str : ∀ s, motive (.str s))
    (list : ∀ items, (∀ d ∈ items, motive d) → motive (.list items))
    (tuple : ∀ items, (∀ d ∈ items, motive d) → motive (.tuple items))
    (dict : ∀ entries, (∀ e ∈ entries, motive e.1 ∧ motive e.2) → motive (.dict entries))
    (set : ∀ items, (∀ d ∈ items, motive d) → motive (.set items)) (d : Datum) : motive d := by
  have again (d' : Datum) (_ : sizeOf d' < sizeOf d) : motive d' :=
    induct none bool int str list tuple dict set d'
  cases d with
  | none => exact none
  | bool b => exact bool b
  | int n => exact int n
  | str s => exact str s
  | list items =>
    refine list items fun d member => again d ?_
    have := List.sizeOf_lt_of_mem member
    rw [Datum.list.sizeOf_spec]
    omega
  | tuple items =>
    refine tuple items fun d member => again d ?_
    have := List.sizeOf_lt_of_mem member
    rw [Datum.tuple.sizeOf_spec]
    omega
  | dict entries =>
    refine dict entries fun e member => ?_
    have := List.sizeOf_lt_of_mem member
    obtain ⟨key, value⟩ := e
    rw [Prod.mk.sizeOf_spec] at this
    exact ⟨again key (by rw [Datum.dict.sizeOf_spec]; omega),
      again value (by rw [Datum.dict.sizeOf_spec]; omega)⟩
  | set items =>
    refine set items fun d member => again d ?_
    have := List.sizeOf_lt_of_mem member
    rw [Datum.set.sizeOf_spec]
    omega
termination_by d

end Datum

/-! ## First characters -/

/-- **What a first character says** of the datum that begins with it. -/
inductive Opening where
  | none | truth | number | text | list | tuple | brace | emptySet
  /-- No datum begins so, and no int goes on so. -/
  | other
  deriving DecidableEq

/-- Whether a character stands in numerals. -/
def Opening.numeral (c : Char) : Bool := c.isDigit || c == '-'

/-- What a character says as the first one. -/
def Opening.of (c : Char) : Opening :=
  if numeral c then .number
  else match c with
    | 'N' => .none
    | 'T' | 'F' => .truth
    | '\'' | '"' => .text
    | '[' => .list
    | '(' => .tuple
    | '\x7b' => .brace
    | 's' => .emptySet
    | _ => .other

namespace Datum

/-- What a datum begins with. -/
def opening : Datum → Opening
  | none => .none
  | bool _ => .truth
  | int _ => .number
  | str _ => .text
  | list _ => .list
  | tuple _ => .tuple
  | dict _ | set (_ :: _) => .brace
  | set [] => .emptySet

theorem opening_ne_other (d : Datum) : d.opening ≠ .other := by
  cases d with
  | set items => cases items <;> simp [opening]
  | _ => simp [opening]

/-- The text of an int is a numeral. -/
theorem numeral_of_mem_repr {n : Int} {c : Char} (member : c ∈ (toString n).toList) :
    Opening.numeral c = true := by
  have digits (k : Nat) (inside : c ∈ k.repr.toList) : c.isDigit = true := by
    rw [Nat.repr_eq_ofList_toDigits, String.toList_ofList] at inside
    exact Nat.isDigit_of_mem_toDigits (by decide) (by decide) inside
  have whole : toString n = n.repr := rfl
  rw [whole, Int.repr_eq_if] at member
  split at member
  · simp [Opening.numeral, digits _ member]
  · rw [String.toList_append, List.mem_append] at member
    rcases member with sign | inside
    · obtain rfl := List.mem_singleton.1 sign
      rfl
    · simp [Opening.numeral, digits _ inside]

theorem repr_ne_nil (n : Int) : (toString n).toList ≠ [] := by
  have whole : toString n = n.repr := rfl
  rw [whole, Int.repr_eq_if]
  split
  · simp
  · simp

/-- **The first character of a datum tells its sort.** -/
theorem exists_chars_eq_cons (d : Datum) :
    ∃ c cs, d.chars = c :: cs ∧ Opening.of c = d.opening := by
  cases d with
  | none => exact ⟨_, _, rfl, rfl⟩
  | bool b => cases b <;> exact ⟨_, _, rfl, rfl⟩
  | int n =>
    obtain ⟨c, cs, written⟩ := List.exists_cons_of_ne_nil (repr_ne_nil n.toInt)
    have first : Opening.numeral c = true :=
      numeral_of_mem_repr (written ▸ List.mem_cons_self)
    exact ⟨c, cs, written, by simp [Opening.of, first, opening]⟩
  | str s =>
    refine ⟨_, _, rfl, ?_⟩
    rcases Text.quoteMark_eq s.toList with mark | mark <;> rw [mark] <;> rfl
  | list | tuple | dict => exact ⟨_, _, rfl, rfl⟩
  | set items => cases items <;> exact ⟨_, _, rfl, rfl⟩

/-! ## Where a text ends -/

/-- Nothing follows, or something that no datum begins with. -/
def Ends (r : List Char) : Prop := ∀ c cs, r = c :: cs → Opening.of c = .other

/-- What follows does not go on with another item. -/
def Closes (r : List Char) : Prop := Ends r ∧ ∀ cs, r ≠ ',' :: ' ' :: cs

theorem ends_cons {c : Char} {cs : List Char} (other : Opening.of c = .other) :
    Ends (c :: cs) := by
  intro c' cs' same
  obtain ⟨rfl, -⟩ := List.cons.inj same
  exact other

theorem closes_cons {c : Char} {cs : List Char} (other : Opening.of c = .other)
    (notComma : c ≠ ',') : Closes (c :: cs) :=
  ⟨ends_cons other, fun _ same => notComma (List.cons.inj same).1⟩

theorem ends_more {r : List Char} (closes : Closes r) (ts : List (List Char)) :
    Ends (more ts ++ r) := by
  cases ts with
  | nil => exact closes.1
  | cons t ts => exact ends_cons rfl

/-- Where a text ends no datum begins. -/
theorem chars_append_ne {r s : List Char} (ends : Ends r) (d : Datum) : d.chars ++ s ≠ r := by
  obtain ⟨c, cs, written, first⟩ := d.exists_chars_eq_cons
  rintro rfl
  rw [written] at ends
  exact d.opening_ne_other (first.symm.trans (ends c _ rfl))

section Readable

variable {α : Type} {write : α → List Char} {a : α} {as bs : List α} {r s : List Char}

variable (write a) in
/-- **A text can be read**: it is told apart from others, and its end is found. -/
def Readable : Prop :=
  ∀ b r s, Ends r → Ends s → write a ++ r = write b ++ s → a = b ∧ r = s

/-- Texts between commas can be read if each of them can. -/
theorem more_append_inj (readable : ∀ a ∈ as, Readable write a) (closes : Closes r)
    (closes' : Closes s) (same : more (as.map write) ++ r = more (bs.map write) ++ s) :
    as = bs ∧ r = s := by
  induction as generalizing bs with
  | nil =>
    cases bs with
    | nil => exact ⟨rfl, same⟩
    | cons b bs => exact absurd same (closes.2 _)
  | cons a as ih =>
    cases bs with
    | nil => exact absurd same.symm (closes'.2 _)
    | cons b bs =>
      simp only [List.map_cons, more, List.flatMap_cons, List.cons_append, List.append_assoc,
        List.cons.injEq, true_and] at same
      obtain ⟨rfl, rest⟩ := readable a List.mem_cons_self b _ _ (ends_more closes (as.map write))
        (ends_more closes' (bs.map write)) same
      obtain ⟨rfl, rfl⟩ := ih (fun a member => readable a (List.mem_cons_of_mem _ member)) rest
      exact ⟨rfl, rfl⟩

/-- **The items of a container can be read** if each of them can. -/
theorem commas_append_inj (begins : ∀ a r s, Ends r → write a ++ s ≠ r)
    (readable : ∀ a ∈ as, Readable write a) (closes : Closes r) (closes' : Closes s)
    (same : commas (as.map write) ++ r = commas (bs.map write) ++ s) : as = bs ∧ r = s := by
  cases as with
  | nil =>
    cases bs with
    | nil => exact ⟨rfl, same⟩
    | cons b bs =>
      rw [List.map_cons, commas_cons, List.append_assoc] at same
      exact absurd same.symm (begins b _ _ closes.1)
  | cons a as =>
    rw [List.map_cons, commas_cons, List.append_assoc] at same
    cases bs with
    | nil => exact absurd same (begins a _ _ closes'.1)
    | cons b bs =>
      rw [List.map_cons, commas_cons, List.append_assoc] at same
      obtain ⟨rfl, rest⟩ := readable a List.mem_cons_self b _ _ (ends_more closes (as.map write))
        (ends_more closes' (bs.map write)) same
      obtain ⟨rfl, rfl⟩ :=
        more_append_inj (fun a member => readable a (List.mem_cons_of_mem _ member)) closes closes'
          rest
      exact ⟨rfl, rfl⟩

end Readable

/-! ## Data of one sort -/

/-- **Two data that begin alike**: they are of one sort, or one is a dict and the
other a set. -/
inductive Alike : Datum → Datum → Prop
  | none : Alike .none .none
  | bool (a b : Bool) : Alike (.bool a) (.bool b)
  | int (m n : Int64) : Alike (.int m) (.int n)
  | str (s t : String) : Alike (.str s) (.str t)
  | list (xs ys : List Datum) : Alike (.list xs) (.list ys)
  | tuple (xs ys : List Datum) : Alike (.tuple xs) (.tuple ys)
  | dict (es fs : List (Datum × Datum)) : Alike (.dict es) (.dict fs)
  | emptySet : Alike (.set []) (.set [])
  | set (x : Datum) (xs : List Datum) (y : Datum) (ys : List Datum) :
    Alike (.set (x :: xs)) (.set (y :: ys))
  | dictSet (es : List (Datum × Datum)) (y : Datum) (ys : List Datum) :
    Alike (.dict es) (.set (y :: ys))
  | setDict (x : Datum) (xs : List Datum) (fs : List (Datum × Datum)) :
    Alike (.set (x :: xs)) (.dict fs)

theorem alike_of_opening_eq {d e : Datum} (same : d.opening = e.opening) : Alike d e := by
  rcases d with _ | _ | _ | _ | _ | _ | _ | ⟨_ | _⟩ <;>
    rcases e with _ | _ | _ | _ | _ | _ | _ | ⟨_ | _⟩ <;>
    first | cases same; done | constructor

/-- Texts of one beginning belong to data that begin alike. -/
theorem alike_of_append_eq {d e : Datum} {r s : List Char} (same : d.chars ++ r = e.chars ++ s) :
    Alike d e := by
  obtain ⟨c, cs, written, first⟩ := d.exists_chars_eq_cons
  obtain ⟨c', cs', written', first'⟩ := e.exists_chars_eq_cons
  rw [written, written'] at same
  obtain ⟨rfl, -⟩ := List.cons.inj same
  exact alike_of_opening_eq (first.symm.trans first')

/-! ## Ints -/

theorem numeral_eq_false {c : Char} (other : Opening.of c = .other) :
    Opening.numeral c = false := by
  unfold Opening.of at other
  split at other
  · cases other
  · simpa using ‹¬ Opening.numeral c = true›

/-- **Numerals are told apart where they end.** -/
theorem repr_append_inj {m n : Int} {r s : List Char} (ends : Ends r) (ends' : Ends s)
    (same : (toString m).toList ++ r = (toString n).toList ++ s) : m = n ∧ r = s := by
  -- The numeral is what can be taken as long as there are digits.
  have cut {k : Int} {r : List Char} (ends : Ends r) :
      ((toString k).toList ++ r).takeWhile Opening.numeral = (toString k).toList := by
    rw [List.takeWhile_append_of_pos fun c member => numeral_of_mem_repr member]
    cases r with
    | nil => simp
    | cons c cs => simp [numeral_eq_false (ends c cs rfl)]
  have whole : (toString m).toList = (toString n).toList := by
    rw [← cut ends, same, cut ends']
  refine ⟨Int.repr_inj.1 (String.toList_inj.1 whole), ?_⟩
  rw [whole] at same
  exact List.append_cancel_left same

/-! ## Dicts -/

theorem readable_entry {e : Datum × Datum} (key : Readable chars e.1)
    (value : Readable chars e.2) : Readable entryChars e := by
  intro e' r s ends ends' same
  simp only [entryChars, List.append_assoc, List.cons_append] at same
  obtain ⟨first, rest⟩ := key e'.1 _ _ (ends_cons rfl) (ends_cons rfl) same
  simp only [List.cons.injEq, true_and] at rest
  obtain ⟨second, rfl⟩ := value e'.2 _ _ ends ends' rest
  exact ⟨Prod.ext first second, rfl⟩

theorem entryChars_append_ne (e : Datum × Datum) (r s : List Char) (ends : Ends r) :
    entryChars e ++ s ≠ r := by
  rw [entryChars, List.append_assoc]
  exact chars_append_ne ends e.1

/-- Where a set goes on or ends, a dict would have a colon. -/
theorem more_append_ne (ts : List (List Char)) (r s : List Char) :
    more ts ++ '\x7d' :: r ≠ ':' :: s := by
  cases ts <;> simp [more]

/-- **A dict is no set**, whichever of the two is known to be readable. -/
theorem dict_append_ne {es : List (Datum × Datum)} {y : Datum} {ys : List Datum} {r s : List Char}
    (readable : (∀ e ∈ es, Readable chars e.1) ∨ Readable chars y) :
    commas (es.map entryChars) ++ '\x7d' :: r ≠
      commas ((y :: ys).map chars) ++ '\x7d' :: s := by
  rw [List.map_cons, commas_cons, List.append_assoc]
  intro same
  cases es with
  | nil => exact chars_append_ne (ends_cons rfl) y same.symm
  | cons e es =>
    rw [List.map_cons, commas_cons, entryChars, List.append_assoc, List.append_assoc] at same
    have closes : Closes ('\x7d' :: s) := closes_cons rfl (by decide)
    have ends := ends_more closes (ys.map chars)
    -- The first key is the first item, and behind it they go on differently.
    obtain keys | item := readable
    · obtain ⟨-, rest⟩ := keys e List.mem_cons_self y _ _ (ends_cons rfl) ends same
      exact more_append_ne _ _ _ rest.symm
    · obtain ⟨-, rest⟩ := item e.1 _ _ ends (ends_cons rfl) same.symm
      exact more_append_ne _ _ _ rest

/-! ## Unique readability -/

theorem closes_bracket {c : Char} {r : List Char} (bracket : c = ']' ∨ c = ')' ∨ c = '\x7d') :
    Closes (c :: r) := by
  rcases bracket with rfl | rfl | rfl <;> exact closes_cons rfl (by decide)

/-- What closes a tuple, with or without a comma before. -/
theorem closes_tuple (single : Prop) [Decidable single] (r : List Char) :
    Closes ((if single then [',', ')'] else [')']) ++ r) := by
  split
  · exact ⟨ends_cons rfl, fun cs => by simp⟩
  · exact closes_bracket (.inr (.inl rfl))

/-- **Every datum can be read** from the text it is printed as. -/
theorem readable (d : Datum) : Readable chars d := by
  induction d using Datum.induct with
  | none =>
    intro e r s _ _ same
    cases alike_of_append_eq same
    exact ⟨rfl, List.append_cancel_left same⟩
  | bool b =>
    intro e r s _ _ same
    cases alike_of_append_eq same with
    | bool _ b' => cases b <;> cases b' <;> simp_all [chars]
  | int n =>
    intro e r s ends ends' same
    cases alike_of_append_eq same with
    | int _ n' =>
      obtain ⟨equal, rest⟩ := repr_append_inj ends ends' same
      exact ⟨congrArg Datum.int (Int64.toInt_inj.1 equal), rest⟩
  | str t =>
    intro e r s _ _ same
    cases alike_of_append_eq same with
    | str _ t' =>
      obtain ⟨equal, rest⟩ := Text.quoteChars_append_inj same
      exact ⟨congrArg Datum.str (String.toList_inj.1 equal), rest⟩
  | list xs ih =>
    intro e r s _ _ same
    cases alike_of_append_eq same with
    | list _ ys =>
      simp only [chars, allChars_eq_map, List.cons_append, List.append_assoc, List.nil_append,
        List.cons.injEq, true_and] at same
      obtain ⟨rfl, rest⟩ := commas_append_inj (fun d r s ends => chars_append_ne ends d) ih
        (closes_bracket (.inl rfl)) (closes_bracket (.inl rfl)) same
      exact ⟨rfl, (List.cons.inj rest).2⟩
  | tuple xs ih =>
    intro e r s _ _ same
    cases alike_of_append_eq same with
    | tuple _ ys =>
      simp only [chars, allChars_eq_map, List.cons_append, List.append_assoc, List.cons.injEq,
        true_and] at same
      obtain ⟨rfl, rest⟩ := commas_append_inj (fun d r s ends => chars_append_ne ends d) ih
        (closes_tuple _ _) (closes_tuple _ _) same
      exact ⟨rfl, List.append_cancel_left rest⟩
  | dict es ih =>
    intro e r s _ _ same
    cases alike_of_append_eq same with
    | dict _ fs =>
      simp only [chars, entriesChars_eq_map, List.cons_append, List.append_assoc, List.nil_append,
        List.cons.injEq, true_and] at same
      obtain ⟨rfl, rest⟩ := commas_append_inj entryChars_append_ne
        (fun e member => readable_entry (ih e member).1 (ih e member).2)
        (closes_bracket (.inr (.inr rfl))) (closes_bracket (.inr (.inr rfl))) same
      exact ⟨rfl, (List.cons.inj rest).2⟩
    | dictSet _ y ys =>
      simp only [chars, entriesChars_eq_map, allChars_eq_map, ← List.map_cons, List.cons_append,
        List.append_assoc, List.nil_append, List.cons.injEq, true_and] at same
      exact absurd same (dict_append_ne (.inl fun e member => (ih e member).1))
  | set xs ih =>
    intro e r s _ _ same
    cases alike_of_append_eq same with
    | emptySet => exact ⟨rfl, List.append_cancel_left same⟩
    | set x xs y ys =>
      simp only [chars, allChars_eq_map, ← List.map_cons, List.cons_append, List.append_assoc,
        List.nil_append, List.cons.injEq, true_and] at same
      obtain ⟨equal, rest⟩ := commas_append_inj (fun d r s ends => chars_append_ne ends d) ih
        (closes_bracket (.inr (.inr rfl))) (closes_bracket (.inr (.inr rfl))) same
      exact ⟨congrArg Datum.set equal, (List.cons.inj rest).2⟩
    | setDict x xs fs =>
      simp only [chars, entriesChars_eq_map, allChars_eq_map, ← List.map_cons, List.cons_append,
        List.append_assoc, List.nil_append, List.cons.injEq, true_and] at same
      exact absurd same.symm (dict_append_ne (.inr (ih x List.mem_cons_self)))

/-- **No two data have one text.** -/
theorem chars_inj {d e : Datum} (same : d.chars = e.chars) : d = e := by
  have ends : Ends [] := fun _ _ nothing => by cases nothing
  exact (readable d e [] [] ends ends (by rw [same])).1

end Datum

end MeteredScript
