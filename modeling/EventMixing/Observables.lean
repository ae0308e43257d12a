import EventMixing.Double
import EventMixing.Variable

/-!
# The observables of one event

One double per variable. A value that was never set is NaN, which lies in no bin
of any axis.
-/

namespace EventMixing

/-- The values of one event. -/
structure Observables where
  values : Vector Double Variable.count
deriving DecidableEq

namespace Observables

def unset : Observables := ⟨Vector.replicate Variable.count .nan⟩

def get (o : Observables) (v : Variable) : Double := v.entry o.values

def set (o : Observables) (v : Variable) (value : Double) : Observables :=
  ⟨v.setEntry o.values value⟩

/-- Values set one after the other, so that the last one for a variable stays. -/
def ofPairs (pairs : List (Variable × Double)) : Observables :=
  pairs.foldl (fun o (v, value) => o.set v value) unset

def toList (o : Observables) : List Double := o.values.toList

/-- Numeric equality of all values, which no NaN passes. -/
def same (a b : Observables) : Bool :=
  (a.toList.zip b.toList).all fun (x, y) => x.same y

@[simp]
theorem get_unset (v : Variable) : unset.get v = .nan := by simp [unset, get]

@[simp]
theorem get_set_self (o : Observables) (v : Variable) (value : Double) :
    (o.set v value).get v = value := Variable.entry_setEntry_self o.values v value

theorem get_set_of_ne (o : Observables) {v w : Variable} (h : v ≠ w) (value : Double) :
    (o.set v value).get w = o.get w := Variable.entry_setEntry_of_ne o.values h value

end Observables

end EventMixing
