import PortfolioManager.Library.UuidText

/-! # Row security predicates

Scalar expressions with SQL's NULL: a comparison with NULL is NULL, and a row passes a predicate
only when it is true. Casting a text that is no UUID fails, which is different from NULL.
-/

namespace Sql

inductive Value where
  | text (value : String)
  | uuid (value : BitVec 128)
  | timestamp (micros : ℤ)
  | boolean (value : Bool)
deriving DecidableEq

inductive Failure where
  | undefinedColumn (name : String)
  | undefinedSetting (name : String)
  | invalidUuid (text : String)
  | typeMismatch
deriving DecidableEq

inductive Expr where
  | column (name : String)
  | literal (text : String)
  | currentSetting (name : String) (missingOk : Bool)
  | nullIf (first second : Expr)
  | castUuid (operand : Expr)
  | equals (first second : Expr)

/-- The row and the session settings an expression is evaluated in; NULL is `none`. -/
structure Env where
  column : String → Option (Option Value)
  setting : String → Option String

/-- `=`, which is NULL as soon as one side is. -/
def equal : Option Value → Option Value → Except Failure (Option Bool)
  | some (.text first), some (.text second) => .ok (some (first = second))
  | some (.uuid first), some (.uuid second) => .ok (some (first = second))
  | some (.timestamp first), some (.timestamp second) => .ok (some (first = second))
  | some (.boolean first), some (.boolean second) => .ok (some (first = second))
  | none, _ => .ok none
  | _, none => .ok none
  | _, _ => .error .typeMismatch

/-- `::uuid`. -/
def toUuid : Option Value → Except Failure (Option Value)
  | none => .ok none
  | some (.uuid value) => .ok (some (.uuid value))
  | some (.text text) =>
      match UuidText.parse text with
      | some value => .ok (some (.uuid value))
      | none => .error (.invalidUuid text)
  | some _ => .error .typeMismatch

namespace Expr

def eval (env : Env) : Expr → Except Failure (Option Value)
  | column name =>
      match env.column name with
      | some value => .ok value
      | none => .error (.undefinedColumn name)
  | literal text => .ok (some (.text text))
  | currentSetting name missingOk =>
      match env.setting name with
      | some value => .ok (some (.text value))
      | none => if missingOk then .ok none else .error (.undefinedSetting name)
  | nullIf first second => do
      let value ← first.eval env
      let other ← second.eval env
      let same ← equal value other
      return if same = some true then none else value
  | castUuid operand => do
      let value ← operand.eval env
      toUuid value
  | equals first second => do
      let value ← first.eval env
      let other ← second.eval env
      let same ← equal value other
      return same.map .boolean

/-- A predicate admits a row when it is true: neither false nor NULL. -/
def admits (env : Env) (predicate : Expr) : Except Failure Bool := do
  let value ← predicate.eval env
  return value = some (.boolean true)

end Expr

structure Policy where
  name : String
  table : String
  usingClause : Expr
  withCheck : Expr

/-- Whether some policy of a table admits a row under one of its clauses; without a policy nothing is admitted. -/
def admitted (policies : List Policy) (table : String) (clause : Policy → Expr) (env : Env) : Except Failure Bool :=
  (policies.filter (·.table = table)).anyM fun policy => (clause policy).admits env

end Sql
