import Mathlib.Data.Int.Basic

/-!
# Error codes and callers

The codes of the service interfaces and what an interface learns about the process that calls
it.  A token check reads the type of the calling token, its permissions and whether it belongs
to a system application, so a caller is a value with these fields and no check restricts which
callers exist.
-/

namespace SecurityGuard

/-- A return code of the service. -/
abbrev Code := Int

namespace Code

def success : Code := 0
def failed : Code := 1
def noPermission : Code := 2
def noSystemCall : Code := 3
def fileErr : Code := 5
def badParam : Code := 6
def nullObject : Code := 8
def timeOut : Code := 9
def notFound : Code := 10
def readErr : Code := 12
def filterExceedLimit : Code := 1006
def clientExceedProcessLimit : Code := 1007
def clientExceedGlobalLimit : Code := 1008
def kernelNotSupport : Code := 1012
def authProviderInternalError : Code := 27000001
def authProviderExceedProcessLimit : Code := 27000002
def authProviderExceedGlobalLimit : Code := 27000003
def authRequestExceedLimit : Code := 27000004

end Code

/-- The outcome of a section of an operation. -/
inductive Decision (α : Type) where
  | returns (code : Code)
  | continues (value : α)
  deriving DecidableEq

/-- The kind of an access token. -/
inductive TokenType where
  | native
  | hap
  | shell
  | invalid
  deriving DecidableEq, Repr

/-- What an interface can learn about the process that calls it. -/
structure Caller where
  pid : Int
  uid : Int
  tokenType : TokenType
  /-- Names of the permissions that the calling token is granted. -/
  permissions : List String
  isSystemApp : Bool
  deriving DecidableEq, Repr

/-- The address of an object in the service or of a remote object that the service holds. -/
abbrev Address := Nat

end SecurityGuard
