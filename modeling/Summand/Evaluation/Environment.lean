import Std.Data.TreeMap.Lemmas
import Summand.Evaluation.Value

/-!
# Environments

An environment binds names to values.  A later binding of a name replaces the earlier one.  Bindings
are listed in the order of their names, code point by code point.
-/

namespace Summand

/-- Names with their values. -/
structure Environment where
  bindings : Std.TreeMap String Value := {}

namespace Environment

instance : Inhabited Environment := ⟨{}⟩

/-- The environment without bindings. -/
def empty : Environment := {}

/-- The value of a name, if it is bound. -/
def get? (env : Environment) (name : String) : Option Value :=
  env.bindings[name]?

/-- The name is bound. -/
def contains (env : Environment) (name : String) : Bool :=
  (env.get? name).isSome

/-- Binds a name, in place of an earlier binding if there is one. -/
def define (env : Environment) (name : String) (value : Value) : Environment :=
  ⟨env.bindings.insert name value⟩

/-- The bindings of a list, made one after the other. -/
def ofList (pairs : List (String × Value)) : Environment :=
  pairs.foldl (fun env (name, value) => env.define name value) empty

/-- The bindings in the order of their names. -/
def toList (env : Environment) : List (String × Value) :=
  env.bindings.toList

/-- The number of names that are bound. -/
def size (env : Environment) : Nat :=
  env.bindings.size

/-- No name is bound. -/
def isEmpty (env : Environment) : Bool :=
  env.bindings.isEmpty

/-- Two environments bind the same names to equal values. -/
def same (env env' : Environment) : Bool :=
  env.toList == env'.toList

instance : BEq Environment := ⟨same⟩

@[simp] theorem get?_empty (name : String) : empty.get? name = none := by
  simp [empty, get?]

/-- A binding is what its name is bound to, and no other name is affected. -/
theorem get?_define (env : Environment) (name other : String) (value : Value) :
    (env.define name value).get? other = if name = other then some value else env.get? other := by
  simp [define, get?, Std.TreeMap.getElem?_insert]

@[simp] theorem get?_define_self (env : Environment) (name : String) (value : Value) :
    (env.define name value).get? name = some value := by
  simp [get?_define]

theorem get?_define_of_ne (env : Environment) {name other : String} (value : Value)
    (h : name ≠ other) : (env.define name value).get? other = env.get? other := by
  simp [get?_define, h]

end Environment

end Summand
