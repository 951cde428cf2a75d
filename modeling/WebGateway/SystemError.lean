/-!
# Errors of the operating system

What the operating system answers when a file or an address cannot be used: a number and the text
that describes it. Every such answer is an error here; those that the rules of paths and sockets
themselves give have names.
-/

set_option autoImplicit false
set_option relaxedAutoImplicit false

namespace WebGateway

structure SystemError where
  number : Nat
  description : String
deriving DecidableEq, Repr

namespace SystemError

def notFound : SystemError :=
  ⟨2, "No such file or directory"⟩

def permissionDenied : SystemError :=
  ⟨13, "Permission denied"⟩

def notADirectory : SystemError :=
  ⟨20, "Not a directory"⟩

def isADirectory : SystemError :=
  ⟨21, "Is a directory"⟩

def tooManyLinks : SystemError :=
  ⟨40, "Too many levels of symbolic links"⟩

def addressInUse : SystemError :=
  ⟨98, "Address already in use"⟩

def message (error : SystemError) : String :=
  error.description ++ " (os error " ++ toString error.number ++ ")"

end SystemError

end WebGateway
