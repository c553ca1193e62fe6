import Polyquery.Error
import Polyquery.Expression.Basic

/-!
# Numbers of operands

A symbol asks for as many operands as its placement has room for.
-/

namespace Polyquery

/-- Fail unless a symbol has as many operands as its placement asks for. -/
def Symbol.checkArity (symbol : Symbol) (found : Nat) : Result Unit :=
  let expected := symbol.placement.arity
  if found = expected then .ok ()
  else .error (.generation (.arity symbol.described expected found))

/-- Fail unless the symbol of an expression has the operands it asks for.  The
operands themselves are not looked at. -/
def Expr.checkArity (e : Expr) : Result Unit :=
  e.symbol.checkArity e.operands.length

end Polyquery
