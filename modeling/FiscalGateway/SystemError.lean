import FiscalGateway.Text.Octets

/-!
# Errors of the operating system

What the system answers when a file cannot be read or an address cannot be used: a number and its
wording.
-/

namespace FiscalGateway

/-- An error of the operating system. -/
structure SystemError where
  number : Nat
  text : String
  deriving DecidableEq, Repr

namespace SystemError

/-- The wording with the number. -/
def message (e : SystemError) : String := e.text ++ " (os error " ++ toString e.number ++ ")"

def notFound : SystemError := ⟨2, "No such file or directory"⟩

def permissionDenied : SystemError := ⟨13, "Permission denied"⟩

def notDirectory : SystemError := ⟨20, "Not a directory"⟩

def isDirectory : SystemError := ⟨21, "Is a directory"⟩

def addressUnavailable : SystemError := ⟨99, "Cannot assign requested address"⟩

end SystemError

/-- The reading of files by their paths. -/
abbrev ReadFile := String → Except SystemError Octets

end FiscalGateway
