/-!
# Parameters of a library

What a call of a library may or must give a value to.

A parameter without a default has to be given a value by every call, by name or by position; one
with a default keeps it unless a call gives another value.  Nothing restricts either of the texts: a
name may be empty or hold an equals sign, in which case no call can give it by name, and a default
may be whatever a value may be.

Parameters stand in the order of their declaration, and positional arguments fill them in this
order.

* `Parameter`: the two kinds of parameters;
* `Parameter.name`, `Parameter.default?`: what is asked of either.
-/

namespace LibraryCalls

/-- A formal parameter: one that every call must bind, or one that has a value of its own. -/
inductive Parameter (τ : Type := String) where
  | required (name : τ)
  | optional (name default : τ)
  deriving DecidableEq, Repr

namespace Parameter

variable {τ : Type}

def name : Parameter τ → τ
  | .required n => n
  | .optional n _ => n

/-- The value of a parameter that a call leaves open. -/
def default? : Parameter τ → Option τ
  | .required _ => none
  | .optional _ d => some d

end Parameter

end LibraryCalls
