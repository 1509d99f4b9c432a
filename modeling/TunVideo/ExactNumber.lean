import Mathlib

set_option autoImplicit false

/- Exact arithmetic in which every operation has a result: a real number, or `undefined` where
there is none. -/
namespace TunVideo

inductive Exact where
  | value (x : ℝ)
  | undefined

namespace Exact

def map (f : ℝ → ℝ) : Exact → Exact
  | value x => value (f x)
  | undefined => undefined

/-- A function with a domain. -/
noncomputable def within (domain : ℝ → Prop) (f : ℝ → ℝ) : Exact → Exact
  | value x => open Classical in if domain x then value (f x) else undefined
  | undefined => undefined

def map₂ (f : ℝ → ℝ → ℝ) : Exact → Exact → Exact
  | value x, value y => value (f x y)
  | _, _ => undefined

noncomputable instance : Add Exact := ⟨map₂ (· + ·)⟩

noncomputable instance : Sub Exact := ⟨map₂ (· - ·)⟩

noncomputable instance : Mul Exact := ⟨map₂ (· * ·)⟩

noncomputable instance : Neg Exact := ⟨map fun x => -x⟩

/-- There is no quotient by zero. -/
noncomputable instance : Div Exact where
  div
    | value x, value y => if y = 0 then undefined else value (x / y)
    | _, _ => undefined

/-- What is undefined is neither less than a number nor greater. -/
def Related (relation : ℝ → ℝ → Prop) : Exact → Exact → Prop
  | value x, value y => relation x y
  | _, _ => False

instance : LT Exact := ⟨Related (· < ·)⟩

instance : LE Exact := ⟨Related (· ≤ ·)⟩

noncomputable instance : OfScientific Exact where
  ofScientific mantissa negative exponent :=
    value (OfScientific.ofScientific mantissa negative exponent)

noncomputable def sign : Exact → Option SignType
  | value x => some (SignType.sign x)
  | undefined => none

@[simp] theorem value_add (x y : ℝ) : value x + value y = value (x + y) := rfl

@[simp] theorem value_sub (x y : ℝ) : value x - value y = value (x - y) := rfl

@[simp] theorem value_mul (x y : ℝ) : value x * value y = value (x * y) := rfl

theorem value_div (x : ℝ) {y : ℝ} (nonzero : y ≠ 0) : value x / value y = value (x / y) :=
  if_neg nonzero

theorem value_div_zero (x : ℝ) : value x / value 0 = undefined := if_pos rfl

theorem zero_literal : (0.0 : Exact) = value 0 := congrArg value (by norm_num)

theorem two_literal : (2.0 : Exact) = value 2 := congrArg value (by norm_num)

theorem within_value {domain : ℝ → Prop} {f : ℝ → ℝ} {x : ℝ} (inside : domain x) :
    within domain f (value x) = value (f x) := if_pos inside

@[simp] theorem add_undefined (number : Exact) : number + undefined = undefined := by
  cases number <;> rfl

@[simp] theorem mul_undefined (number : Exact) : number * undefined = undefined := by
  cases number <;> rfl

@[simp] theorem undefined_div (number : Exact) : undefined / number = undefined := by
  cases number <;> rfl

end Exact

end TunVideo
