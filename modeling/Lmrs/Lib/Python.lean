import Mathlib

/-!
# Python values, mappings and conversions

The part of the language the service's code leans on, as plain Lean functions:

* **Values** `Value`: what `json.loads` produces and what a command's parameters hold. Floats are
  exact rationals with the three non-finite values beside them; no rounding is modelled.
* **Mappings** `Dict α`: insertion-ordered association lists with the operations of a `dict`
  (`get`, item assignment, `pop`, `update`). The keys of a mapping are read first-match.
* **Conversions**: truthiness, `isinstance(_, int)` (a `bool` is an `int`), `int(_)` with the
  grammar of a decimal literal (sign, underscores, Unicode digits, the 4300-digit limit),
  `str.strip`.
* **Exceptions** `PyException`: the type name and the message. Where the interpreter quotes the
  offending literal in a message, the quoted text is left out.
-/

namespace Python

/-! ## Exceptions -/

/-- A raised exception: `type(exc).__name__` and `str(exc)`. -/
structure PyException where
  /-- The name of the exception class. -/
  kind : String
  /-- The rendered message. -/
  message : String
  deriving DecidableEq, Repr

/-- `raise ValueError(message)`. -/
def valueError (message : String) : PyException := ⟨"ValueError", message⟩

/-- `raise TypeError(message)`. -/
def typeError (message : String) : PyException := ⟨"TypeError", message⟩

/-- `raise RuntimeError(message)`. -/
def runtimeError (message : String) : PyException := ⟨"RuntimeError", message⟩

/-- `raise OverflowError(message)`. -/
def overflowError (message : String) : PyException := ⟨"OverflowError", message⟩

/-- `raise OSError(message)`, and its subclasses under their own names. -/
def osError (kind message : String) : PyException := ⟨kind, message⟩

/-- A checked computation succeeds exactly when its first part does and the rest does on the
value produced. -/
theorem bind_eq_ok {ε α β : Type} {x : Except ε α} {f : α → Except ε β} {b : β} :
    (x >>= f) = .ok b ↔ ∃ a, x = .ok a ∧ f a = .ok b := by
  cases x with
  | error e =>
      constructor
      · intro h
        cases h
      · rintro ⟨a, h, _⟩
        cases h
  | ok a =>
      constructor
      · intro h
        exact ⟨a, rfl, h⟩
      · rintro ⟨a', h, hf⟩
        cases h
        exact hf

/-- A checked computation fails when its first part does, or the rest on the value produced. -/
theorem bind_eq_error {ε α β : Type} {x : Except ε α} {f : α → Except ε β} {e : ε} :
    (x >>= f) = .error e ↔ x = .error e ∨ ∃ a, x = .ok a ∧ f a = .error e := by
  cases x with
  | error e' =>
      constructor
      · intro h
        cases h
        exact Or.inl rfl
      · rintro (h | ⟨a, h, -⟩)
        · cases h
          rfl
        · cases h
  | ok a =>
      constructor
      · exact fun h => Or.inr ⟨a, rfl, h⟩
      · rintro (h | ⟨a', h, hf⟩)
        · cases h
        · cases h
          exact hf

/-- A mapped computation succeeds exactly when the computation does. -/
theorem map_eq_ok {ε α β : Type} {x : Except ε α} {f : α → β} {b : β} :
    x.map f = .ok b ↔ ∃ a, x = .ok a ∧ f a = b := by
  cases x with
  | error e =>
      constructor
      · intro h
        cases h
      · rintro ⟨a, h, -⟩
        cases h
  | ok a =>
      constructor
      · intro h
        exact ⟨a, rfl, Except.ok.inj h⟩
      · rintro ⟨a', h, rfl⟩
        cases h
        rfl

/-- Every exception a computation ends in is of one class. -/
def OnlyRaises {α : Type} (kind : String) (x : Except PyException α) : Prop :=
  ∀ exc, x = .error exc → exc.kind = kind

/-- A computation that gives a value raises nothing. -/
theorem OnlyRaises.ok {α : Type} {kind : String} (a : α) :
    OnlyRaises kind (.ok a : Except PyException α) := by
  intro exc h
  cases h

/-- A raised `ValueError` is one. -/
theorem OnlyRaises.valueError {α : Type} (message : String) :
    OnlyRaises "ValueError" (.error (valueError message) : Except PyException α) := by
  intro exc h
  cases h
  rfl

/-- Both parts of a computation raise one class, and so does the whole. -/
theorem OnlyRaises.bind {α β : Type} {kind : String} {x : Except PyException α}
    {f : α → Except PyException β} (hx : OnlyRaises kind x) (hf : ∀ a, OnlyRaises kind (f a)) :
    OnlyRaises kind (x >>= f) := by
  cases x with
  | error e =>
      intro exc h
      cases h
      exact hx _ rfl
  | ok a => exact hf a

/-- `if n < 0: raise ValueError(f"{name} must be non-negative")`. -/
def requireNonNegative (name : String) (n : Int) : Except PyException Unit :=
  if n < 0 then .error (valueError (name ++ " must be non-negative")) else .ok ()

/-- The check passes exactly on the non-negative numbers. -/
@[simp] theorem requireNonNegative_eq_ok {name : String} {n : Int} {u : Unit} :
    requireNonNegative name n = .ok u ↔ 0 ≤ n := by
  unfold requireNonNegative
  by_cases h : n < 0
  · rw [if_pos h]
    constructor
    · intro hc
      cases hc
    · omega
  · rw [if_neg h]
    constructor
    · intro _
      omega
    · intro _
      rfl

/-- The check raises `ValueError`. -/
theorem requireNonNegative_raises (name : String) (n : Int) :
    OnlyRaises "ValueError" (requireNonNegative name n) := by
  unfold requireNonNegative
  split
  · exact .valueError _
  · exact .ok _

/-! ## Values -/

/-- A float: a finite value, exact, or one of the three values `json` reads as `NaN`,
`Infinity` and `-Infinity`. -/
inductive PyFloat where
  | finite (q : ℚ)
  | nan
  | posInf
  | negInf
  deriving DecidableEq

/-- A JSON-shaped Python value. -/
inductive Value where
  | none
  | bool (b : Bool)
  | int (n : Int)
  | float (x : PyFloat)
  | str (s : String)
  | list (items : List Value)
  | dict (items : List (String × Value))

/-- A mapping with string keys, in insertion order. -/
abbrev Dict (α : Type) := List (String × α)

namespace Dict

variable {α : Type}

/-- `d.get(k)`. -/
def get? (d : Dict α) (k : String) : Option α := List.lookup k d

/-- `d[k] = v`: replace in place, or append. -/
def set : Dict α → String → α → Dict α
  | [], k, v => [(k, v)]
  | (k', v') :: d, k, v => if k' = k then (k, v) :: d else (k', v') :: set d k v

/-- `d.pop(k, None)`. -/
def pop (d : Dict α) (k : String) : Dict α := d.filter fun kv => kv.1 ≠ k

/-- `d.update(e)`. -/
def update (d e : Dict α) : Dict α := e.foldl (fun acc kv => set acc kv.1 kv.2) d

/-- A lookup in a mapping that starts with the pair `(k', v)`. -/
theorem get?_cons (k k' : String) (v : α) (d : Dict α) :
    get? ((k', v) :: d) k = if k = k' then some v else get? d k := by
  by_cases h : k = k'
  · simp [get?, h]
  · have hb : (k == k') = false := by simpa using h
    simp [get?, List.lookup_cons, hb, h]

/-- Assigning a key that is not there appends it. -/
theorem set_of_not_mem (d : Dict α) {k : String} (v : α) (h : k ∉ d.map Prod.fst) :
    set d k v = d ++ [(k, v)] := by
  induction d with
  | nil => rfl
  | cons kv d ih =>
      rw [List.map_cons, List.mem_cons, not_or] at h
      have hne : kv.1 ≠ k := Ne.symm h.1
      rw [set, if_neg hne, ih h.2, List.cons_append]

/-- A freshly assigned key reads back the value assigned. -/
@[simp] theorem get?_set_self (d : Dict α) (k : String) (v : α) :
    get? (set d k v) k = some v := by
  induction d with
  | nil => simp [set, get?_cons]
  | cons kv d ih =>
      obtain ⟨k', v'⟩ := kv
      by_cases h : k' = k
      · simp [set, h, get?_cons]
      · rw [set, if_neg h, get?_cons, if_neg (Ne.symm h), ih]

/-- Assigning one key leaves every other key as it was. -/
theorem get?_set_of_ne (d : Dict α) {k k' : String} (v : α) (h : k' ≠ k) :
    get? (set d k v) k' = get? d k' := by
  induction d with
  | nil => rw [set, get?_cons, if_neg h]
  | cons kv d ih =>
      obtain ⟨k'', v''⟩ := kv
      by_cases hk : k'' = k
      · rw [set, if_pos hk, get?_cons, get?_cons, if_neg h, if_neg (hk ▸ h)]
      · rw [set, if_neg hk, get?_cons, get?_cons, ih]

/-- A lookup after an assignment. -/
theorem get?_set (d : Dict α) (k k' : String) (v : α) :
    get? (set d k v) k' = if k' = k then some v else get? d k' := by
  by_cases h : k' = k
  · rw [if_pos h, h, get?_set_self]
  · rw [if_neg h, get?_set_of_ne d v h]

/-- Popping a key leaves every other key as it was. -/
theorem get?_pop_of_ne (d : Dict α) {k k' : String} (h : k' ≠ k) :
    get? (pop d k) k' = get? d k' := by
  induction d with
  | nil => rfl
  | cons kv d ih =>
      obtain ⟨k'', v''⟩ := kv
      by_cases hk : k'' = k
      · have hpop : pop ((k'', v'') :: d) k = pop d k := by simp [pop, hk]
        rw [hpop, ih, get?_cons, if_neg (hk ▸ h)]
      · have hpop : pop ((k'', v'') :: d) k = (k'', v'') :: pop d k := by simp [pop, hk]
        rw [hpop, get?_cons, get?_cons, ih]

/-- A popped key is gone. -/
@[simp] theorem get?_pop_self (d : Dict α) (k : String) : get? (pop d k) k = none := by
  induction d with
  | nil => rfl
  | cons kv d ih =>
      obtain ⟨k', v'⟩ := kv
      by_cases hk : k' = k
      · have hpop : pop ((k', v') :: d) k = pop d k := by simp [pop, hk]
        rw [hpop, ih]
      · have hpop : pop ((k', v') :: d) k = (k', v') :: pop d k := by simp [pop, hk]
        rw [hpop, get?_cons, if_neg (Ne.symm hk), ih]

/-- A lookup after a key was popped. -/
theorem get?_pop (d : Dict α) (k k' : String) :
    get? (pop d k) k' = if k' = k then none else get? d k' := by
  by_cases h : k' = k
  · rw [if_pos h, h, get?_pop_self]
  · rw [if_neg h, get?_pop_of_ne d h]

/-- A lookup among mapped values. -/
theorem get?_map {β : Type} (f : α → β) (d : Dict α) (k : String) :
    get? (d.map fun kv => (kv.1, f kv.2)) k = (get? d k).map f := by
  induction d with
  | nil => rfl
  | cons kv d ih =>
      obtain ⟨k', v⟩ := kv
      rw [List.map_cons, get?_cons, get?_cons, ih]
      split_ifs <;> rfl

/-- The order of the items does not matter to a lookup, when no key occurs twice. -/
theorem get?_perm {d e : Dict α} (hperm : d.Perm e) (hkeys : (d.map Prod.fst).Nodup) (k : String) :
    get? d k = get? e k := by
  induction hperm with
  | nil => rfl
  | cons kv _ ih =>
      rw [get?_cons, get?_cons, ih (List.nodup_cons.mp hkeys).2]
  | swap a b d =>
      have hne : b.1 ≠ a.1 := by
        intro heq
        exact (List.nodup_cons.mp hkeys).1 (by simp [heq])
      rw [get?_cons, get?_cons, get?_cons, get?_cons]
      by_cases hb : k = b.1
      · rw [if_pos hb, if_neg (hb ▸ hne), if_pos hb]
      · rw [if_neg hb, if_neg hb]
  | trans hfirst _ ih ih' =>
      rw [ih hkeys]
      exact ih' (((hfirst.map Prod.fst).nodup_iff).mp hkeys)

/-- An update leaves a key it does not carry as it was. -/
theorem get?_update_of_not_mem (d e : Dict α) {k : String} (h : k ∉ e.map Prod.fst) :
    get? (update d e) k = get? d k := by
  induction e generalizing d with
  | nil => rfl
  | cons kv e ih =>
      simp only [List.map_cons, List.mem_cons, not_or] at h
      have hrec := ih (set d kv.1 kv.2) h.2
      simp only [update, List.foldl_cons] at hrec ⊢
      rw [hrec]
      exact get?_set_of_ne d kv.2 h.1

/-- A lookup after an update: the last entry the update has under the key, or what was there. -/
theorem get?_update (d e : Dict α) (k : String) :
    get? (update d e) k = (get? e.reverse k).or (get? d k) := by
  induction e using List.reverseRecOn generalizing d with
  | nil => rfl
  | append_singleton e kv ih =>
      have hlast : update d (e ++ [kv]) = set (update d e) kv.1 kv.2 := by
        simp [update]
      rw [hlast, get?_set, ih, List.reverse_append, List.reverse_singleton, List.singleton_append,
        get?_cons]
      split_ifs <;> rfl

end Dict

/-! ## Reading a value -/

namespace Value

/-- `bool(value)`. -/
def truthy : Value → Bool
  | .none => false
  | .bool b => b
  | .int n => n ≠ 0
  | .float (.finite q) => q ≠ 0
  | .float _ => true
  | .str s => s ≠ ""
  | .list items => !items.isEmpty
  | .dict items => !items.isEmpty

/-- The integer a value is, when `isinstance(value, int)`: a `bool` counts. -/
def asInt? : Value → Option Int
  | .int n => some n
  | .bool b => some (if b then 1 else 0)
  | _ => Option.none

/-- The string a value is, when `isinstance(value, str)`. -/
def asStr? : Value → Option String
  | .str s => some s
  | _ => Option.none

/-- The mapping a value is, when `isinstance(value, Mapping)`. -/
def asDict? : Value → Option (Dict Value)
  | .dict items => some items
  | _ => Option.none

/-- The list a value is, when `isinstance(value, list)`. -/
def asList? : Value → Option (List Value)
  | .list items => some items
  | _ => Option.none

/-- `d.get(k)` as a value: `None` when the key is absent. -/
def item (d : Dict Value) (k : String) : Value := (Dict.get? d k).getD .none

/-- `d[k]`. -/
def getItem (d : Dict Value) (k : String) : Except PyException Value :=
  match Dict.get? d k with
  | some v => .ok v
  | Option.none => .error ⟨"KeyError", "'" ++ k ++ "'"⟩

/-- The value is `None`. -/
def isNone : Value → Bool
  | .none => true
  | _ => false

/-- `a or b`. -/
def or (a b : Value) : Value := if a.truthy then a else b

/-- The name `type(value).__name__` gives. -/
def typeName : Value → String
  | .none => "NoneType"
  | .bool _ => "bool"
  | .int _ => "int"
  | .float _ => "float"
  | .str _ => "str"
  | .list _ => "list"
  | .dict _ => "dict"

/-- `str(value)`. Floats and containers are rendered by their type name alone. -/
def text : Value → String
  | .none => "None"
  | .bool b => if b then "True" else "False"
  | .int n => toString n
  | .str s => s
  | v => "<" ++ v.typeName ++ ">"

end Value

/-! ## Characters and decimal literals -/

/-- The characters `str.isspace` accepts. -/
def isSpace (c : Char) : Bool :=
  let n := c.toNat
  (0x9 ≤ n && n ≤ 0xd) || (0x1c ≤ n && n ≤ 0x20) || n == 0x85 || n == 0xa0 || n == 0x1680 ||
    (0x2000 ≤ n && n ≤ 0x200a) || n == 0x2028 || n == 0x2029 || n == 0x202f || n == 0x205f ||
    n == 0x3000

/-- `text.strip()` on a list of characters. -/
def strip (cs : List Char) : List Char :=
  ((cs.dropWhile isSpace).reverse.dropWhile isSpace).reverse

/-- `str.split(sep)` for a one-character separator. -/
def splitOn (sep : Char) : List Char → List (List Char)
  | [] => [[]]
  | c :: cs =>
      if c = sep then [] :: splitOn sep cs
      else
        match splitOn sep cs with
        | [] => [[c]]
        | part :: parts => (c :: part) :: parts

/-- Without the separator the text is one part. -/
theorem splitOn_of_not_mem {sep : Char} {cs : List Char} (h : sep ∉ cs) : splitOn sep cs = [cs] := by
  induction cs with
  | nil => rfl
  | cons c cs ih =>
      have hc : c ≠ sep := fun heq => h (heq ▸ List.mem_cons_self ..)
      have hcs : sep ∉ cs := fun hmem => h (List.mem_cons_of_mem c hmem)
      unfold splitOn
      rw [if_neg hc, ih hcs]

/-- `needle in text`. -/
def contains (needle text : String) : Bool :=
  text.toList.tails.any fun rest => needle.toList.isPrefixOf rest

/-- The code points of the digit zero in each run of ten decimal digits (category `Nd`). -/
def decimalZeros : List Nat :=
  [0x30, 0x660, 0x6f0, 0x7c0, 0x966, 0x9e6, 0xa66, 0xae6, 0xb66, 0xbe6, 0xc66, 0xce6, 0xd66,
   0xde6, 0xe50, 0xed0, 0xf20, 0x1040, 0x1090, 0x17e0, 0x1810, 0x1946, 0x19d0, 0x1a80, 0x1a90,
   0x1b50, 0x1bb0, 0x1c40, 0x1c50, 0xa620, 0xa8d0, 0xa900, 0xa9d0, 0xa9f0, 0xaa50, 0xabf0,
   0xff10, 0x104a0, 0x10d30, 0x11066, 0x110f0, 0x11136, 0x111d0, 0x112f0, 0x11450, 0x114d0,
   0x11650, 0x116c0, 0x11730, 0x118e0, 0x11950, 0x11c50, 0x11d50, 0x11da0, 0x11f50, 0x16a60,
   0x16ac0, 0x16b50, 0x1d7ce, 0x1d7d8, 0x1d7e2, 0x1d7ec, 0x1d7f6, 0x1e140, 0x1e2f0, 0x1e4f0,
   0x1e950, 0x1fbf0]

/-- The decimal value of a digit character. -/
def decimalValue (c : Char) : Option Nat :=
  (decimalZeros.find? fun z => z ≤ c.toNat && c.toNat < z + 10).map fun z => c.toNat - z

/-- The digits after the first one of a literal: each may be preceded by one underscore. -/
def digitTail : List Char → Option (List Nat)
  | [] => some []
  | '_' :: c :: cs => do
      let d ← decimalValue c
      let ds ← digitTail cs
      some (d :: ds)
  | c :: cs => do
      let d ← decimalValue c
      let ds ← digitTail cs
      some (d :: ds)

/-- The digits of a literal: at least one, not starting with an underscore. -/
def digits : List Char → Option (List Nat)
  | [] => none
  | c :: cs => do
      let d ← decimalValue c
      let ds ← digitTail cs
      some (d :: ds)

/-- The number a list of decimal digits denotes. -/
def ofDigits (ds : List Nat) : Nat := ds.foldl (fun acc d => 10 * acc + d) 0

/-- The most digits `int` converts from a string. -/
def maxStrDigits : Nat := 4300

/-- `int(text)`. -/
def intOfString (s : String) : Except PyException Int :=
  let body := strip s.toList
  let (negative, unsigned) := match body with
    | '-' :: cs => (true, cs)
    | '+' :: cs => (false, cs)
    | cs => (false, cs)
  match digits unsigned with
  | none => .error (valueError "invalid literal for int() with base 10")
  | some ds =>
      if maxStrDigits < ds.length then
        .error (valueError "Exceeds the limit (4300 digits) for integer string conversion")
      else .ok (if negative then -(ofDigits ds : Int) else ofDigits ds)

/-- `int(value)`: floats are truncated towards zero. -/
def toInt : Value → Except PyException Int
  | .bool b => .ok (if b then 1 else 0)
  | .int n => .ok n
  | .float (.finite q) => .ok (q.num.tdiv q.den)
  | .float .nan => .error (valueError "cannot convert float NaN to integer")
  | .float _ => .error (overflowError "cannot convert float infinity to integer")
  | .str s => intOfString s
  | v => .error (typeError
      ("int() argument must be a string, a bytes-like object or a real number, not '" ++ v.typeName ++ "'"))

example : (intOfString " -1_000 ").toOption = some (-1000) := by decide
example : (intOfString "12_").toOption = none := by decide

end Python
