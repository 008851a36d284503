import Lmrs.Lib.Python

/-!
# Operations on untyped values, and what they raise

A value that came out of a document may be of any type, and an operation on it raises when the type has no
such operation.

* `Value.leZero`, `Value.gtZero`: the comparisons with zero. A guard `isinstance(_, int)` in front of one
  makes it total: `Value.notPositiveInt_eq`, `Value.positiveInt_eq`.
* `Value.floorDiv`: the quotient of two integers, and `Value.floorDiv_eq_ok` when there is one.
* `Value.getAttr`: the entry of a mapping, and `Value.getAttr_eq_ok_iff` when there is the method.
* `mapM_eq_ok`, `mapM_eq_ok_iff`, `mapM_eq_error_iff`: operations on the elements of a list, one after the other.
-/

namespace Python

/-- `raise AttributeError`: a value whose type has no such attribute. -/
def attributeError (typeName name : String) : PyException :=
  ⟨"AttributeError", "'" ++ typeName ++ "' object has no attribute '" ++ name ++ "'"⟩

namespace Value

/-- The exception of a comparison with an integer that a type does not have. -/
def notComparable (symbol : String) (v : Value) : PyException :=
  typeError ("'" ++ symbol ++ "' not supported between instances of '" ++ v.typeName ++ "' and 'int'")

/-- `value <= 0`. -/
def leZero (v : Value) : Except PyException Bool :=
  match v with
  | .bool b => .ok !b
  | .int n => .ok (n ≤ 0)
  | .float (.finite q) => .ok (q ≤ 0)
  | .float .negInf => .ok true
  | .float _ => .ok false
  | _ => .error (notComparable "<=" v)

/-- `value > 0`. -/
def gtZero (v : Value) : Except PyException Bool :=
  match v with
  | .bool b => .ok b
  | .int n => .ok (0 < n)
  | .float (.finite q) => .ok (0 < q)
  | .float .posInf => .ok true
  | .float _ => .ok false
  | _ => .error (notComparable ">" v)

/-- `not isinstance(value, int) or value <= 0`. -/
def notPositiveInt (v : Value) : Except PyException Bool :=
  if v.asInt?.isSome then v.leZero else .ok true

/-- `isinstance(value, int) and value > 0`. -/
def positiveInt (v : Value) : Except PyException Bool :=
  if v.asInt?.isSome then v.gtZero else .ok false

/-- `a // b` of integers. A quotient of floats is refused here: it is another operation. -/
def floorDiv (a b : Value) : Except PyException Value :=
  match a.asInt?, b.asInt? with
  | some m, some n =>
      if n = 0 then .error ⟨"ZeroDivisionError", "integer division or modulo by zero"⟩
      else .ok (.int (m.fdiv n))
  | _, _ => .error (typeError
      ("unsupported operand type(s) for //: '" ++ a.typeName ++ "' and '" ++ b.typeName ++ "'"))

/-- `value.get(key, default)`: a mapping has the method, and no other value of a document has. -/
def getAttr (v : Value) (key : String) (fallback : Value := .none) : Except PyException Value :=
  match v.asDict? with
  | some d => .ok ((Dict.get? d key).getD fallback)
  | Option.none => .error (attributeError v.typeName "get")

/-! ## When they raise nothing -/

/-- An integer compares with zero as its number does. -/
theorem leZero_of_asInt? {v : Value} {n : Int} (h : v.asInt? = some n) : v.leZero = .ok (decide (n ≤ 0)) := by
  cases v with
  | int m =>
      cases h
      rfl
  | bool b =>
      cases b <;> cases h <;> rfl
  | _ => cases h

/-- An integer compares with zero as its number does. -/
theorem gtZero_of_asInt? {v : Value} {n : Int} (h : v.asInt? = some n) : v.gtZero = .ok (decide (0 < n)) := by
  cases v with
  | int m =>
      cases h
      rfl
  | bool b =>
      cases b <;> cases h <;> rfl
  | _ => cases h

/-- **A guarded comparison raises nothing**: it asks whether the value is no positive integer. -/
theorem notPositiveInt_eq (v : Value) : v.notPositiveInt = .ok (v.asInt?.all fun n => decide (n ≤ 0)) := by
  unfold notPositiveInt
  cases h : v.asInt? with
  | none => rfl
  | some n => exact leZero_of_asInt? h

/-- **A guarded comparison raises nothing**: it asks whether the value is a positive integer. -/
theorem positiveInt_eq (v : Value) : v.positiveInt = .ok (v.asInt?.any fun n => decide (0 < n)) := by
  unfold positiveInt
  cases h : v.asInt? with
  | none => rfl
  | some n => exact gtZero_of_asInt? h

/-- Integers have a quotient by a positive one. -/
theorem floorDiv_eq_ok {a b : Value} {m n : Int} (ha : a.asInt? = some m) (hb : b.asInt? = some n)
    (hn : 0 < n) : floorDiv a b = .ok (.int (m / n)) := by
  unfold floorDiv
  rw [ha, hb]
  dsimp only
  rw [if_neg hn.ne', Int.fdiv_eq_ediv_of_nonneg m hn.le]

/-- A mapping, and no other value, has the method. -/
theorem getAttr_eq_ok_iff {v fallback w : Value} {key : String} :
    v.getAttr key fallback = .ok w ↔ ∃ d, v.asDict? = some d ∧ w = (Dict.get? d key).getD fallback := by
  unfold getAttr
  cases v.asDict? with
  | none => simp
  | some d => simp [eq_comm]

end Value

/-- Where an operation gives a value for each element of a list, it gives the list of them. -/
theorem mapM_eq_ok {α β : Type} {f : α → Except PyException β} {g : α → β} {xs : List α}
    (h : ∀ x ∈ xs, f x = .ok (g x)) : xs.mapM f = .ok (xs.map g) := by
  induction xs with
  | nil => rfl
  | cons x xs ih =>
      rw [List.forall_mem_cons] at h
      rw [List.mapM_cons, h.1, ih h.2]
      rfl

/-- An operation on the elements of a list gives what it gives on each. -/
theorem mapM_eq_ok_iff {α β : Type} {f : α → Except PyException β} {xs : List α} {ys : List β} :
    xs.mapM f = .ok ys ↔ List.Forall₂ (fun x y => f x = .ok y) xs ys := by
  induction xs generalizing ys with
  | nil => cases ys <;> simp [pure, Except.pure]
  | cons x xs ih =>
      simp only [List.mapM_cons, bind_eq_ok, ih, pure, Except.pure, Except.ok.injEq, List.forall₂_cons_left_iff]
      constructor
      · rintro ⟨y, hy, rest, hrest, rfl⟩
        exact ⟨y, rest, hy, hrest, rfl⟩
      · rintro ⟨y, rest, hy, hrest, rfl⟩
        exact ⟨y, hy, rest, hrest, rfl⟩

/-- An operation on the elements of a list raises what it raises on the first on which it raises. -/
theorem mapM_eq_error_iff {α β : Type} {f : α → Except PyException β} {xs : List α} {e : PyException} :
    xs.mapM f = .error e ↔
      ∃ before x after, xs = before ++ x :: after ∧ (∀ b ∈ before, ∃ y, f b = .ok y) ∧ f x = .error e := by
  induction xs with
  | nil => simp [pure, Except.pure]
  | cons first xs ih =>
      simp only [List.mapM_cons, bind_eq_error, ih, pure, Except.pure, reduceCtorEq, and_false, exists_false,
        or_false]
      constructor
      · rintro (hfirst | ⟨y, hy, before, x, after, rfl, hbefore, hx⟩)
        · exact ⟨[], first, xs, rfl, by simp, hfirst⟩
        · exact ⟨first :: before, x, after, rfl, List.forall_mem_cons.mpr ⟨⟨y, hy⟩, hbefore⟩, hx⟩
      · rintro ⟨before, x, after, heq, hbefore, hx⟩
        cases before with
        | nil =>
            obtain ⟨rfl, -⟩ := List.cons.inj heq
            exact Or.inl hx
        | cons b before =>
            obtain ⟨rfl, rfl⟩ := List.cons.inj heq
            obtain ⟨⟨y, hy⟩, hrest⟩ := List.forall_mem_cons.mp hbefore
            exact Or.inr ⟨y, hy, before, x, after, rfl, hrest, hx⟩

/-- Both parts of a computation raise one class, the second on what the first gives, and so does the whole. -/
theorem OnlyRaises.bind_of_ok {α β : Type} {kind : String} {x : Except PyException α}
    {f : α → Except PyException β} (hx : OnlyRaises kind x) (hf : ∀ a, x = .ok a → OnlyRaises kind (f a)) :
    OnlyRaises kind (x >>= f) := by
  intro exc h
  rcases bind_eq_error.mp h with hfirst | ⟨a, ha, hrest⟩
  · exact hx exc hfirst
  · exact hf a ha exc hrest

/-- A list of operations raises what one of them raises, where those before it give a value. -/
theorem OnlyRaises.mapM {α β : Type} {kind : String} {f : α → Except PyException β} {xs : List α}
    (h : ∀ before x after, xs = before ++ x :: after → (∀ b ∈ before, ∃ y, f b = .ok y) → OnlyRaises kind (f x)) :
    OnlyRaises kind (xs.mapM f) := by
  intro exc hexc
  obtain ⟨before, x, after, heq, hbefore, hx⟩ := mapM_eq_error_iff.mp hexc
  exact h before x after heq hbefore exc hx

end Python
