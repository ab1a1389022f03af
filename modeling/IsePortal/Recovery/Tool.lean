import IsePortal.Recovery.Accounts

/-!
# The recovery tool

The commands of `recover.py` on `users.json` and the lockout database. What the operator types is
an argument: a name, the answer to a question, the pairs of passwords until one pair is accepted.
A name is looked up as the portal does (`findByUsername`), and the record found first is changed.
-/

namespace IsePortal.Recovery

variable [PyText] [KeyDerivation]

omit [PyText] [KeyDerivation] in
/-- The dialog for a new password: the first entry of eight characters or more that is confirmed.
Without one the operator has left the dialog. -/
def chosenPassword : List (String × String) → Option String
  | [] => none
  | (pw1, pw2) :: rest =>
      -- the second password is only asked for where the first is long enough
      if pw1.length < 8 then chosenPassword rest
      else if pw1 ≠ pw2 then chosenPassword rest
      else some pw1

omit [KeyDerivation] in
/-- The answers that are taken for a yes. -/
def confirms (answer : String) : Bool :=
  PyText.lower (PyText.strip answer) ∈ ["ja", "j", "yes", "y"]

omit [PyText] in
/-- What `cmd_reset_password` assigns. -/
def withPassword (password : String) (salt : Bytes) (record : AccountRecord) : AccountRecord :=
  { record.revoked with passwordHash := some (hashPassword password salt) }

/-- `cmd_reset_password` -/
def cmdResetPassword (desk : Desk) (username : String) (entries : List (String × String))
    (salt : Bytes) : Desk :=
  match findByUsername desk.users username with
  | none => desk
  | some target =>
      match chosenPassword entries with
      | none => desk
      | some password =>
          { users := editFirst (hasUsername username) (withPassword password salt) desk.users
            lockout := desk.lockout.clearLockout target.username }

omit [KeyDerivation] in
/-- `cmd_unlock`: only a lock that still holds is cleared, with the failures that led to it. -/
def cmdUnlock (desk : Desk) (username : String) (now : Time) : Desk :=
  match findByUsername desk.users username with
  | none => desk
  | some target =>
      match desk.lockout.getLockoutUntil target.username with
      | none => desk
      | some lockedUntil =>
          if lockedUntil ≤ now then desk
          else { desk with lockout := desk.lockout.clearLockout target.username }

omit [PyText] in
/-- The record of an emergency admin. -/
def emergencyRecord (username password newId createdAt : String) (salt : Bytes) :
    AccountRecord where
  id := newId
  username := username
  passwordHash := some (hashPassword password salt)
  role := "admin"
  active := some true
  tokenGen := some 0
  createdAt := createdAt

/-- `cmd_create_emergency_admin` -/
def cmdCreateEmergencyAdmin (desk : Desk) (answer usernameIn : String)
    (entries : List (String × String)) (newId createdAt : String) (salt : Bytes) : Desk :=
  let admins := desk.users.filter fun record => record.role = "admin" ∧ record.isActive
  if admins ≠ [] ∧ ¬ confirms answer then desk
  else
    let username :=
      if PyText.strip usernameIn = "" then "recovery_admin" else PyText.strip usernameIn
    match findByUsername desk.users username with
    | some _ => desk
    | none =>
        match chosenPassword entries with
        | none => desk
        | some password =>
            { desk with
              users := desk.users ++ [emergencyRecord username password newId createdAt salt] }

omit [PyText] [KeyDerivation] in
/-- What `cmd_change_role` assigns. -/
def withOtherRole (record : AccountRecord) : AccountRecord :=
  { record.revoked with role := if record.role ≠ "admin" then "admin" else "user" }

omit [KeyDerivation] in
/-- `cmd_change_role` -/
def cmdChangeRole (desk : Desk) (username answer : String) : Desk :=
  match findByUsername desk.users username with
  | none => desk
  | some _ =>
      if confirms answer then
        { desk with users := editFirst (hasUsername username) withOtherRole desk.users }
      else desk

omit [PyText] [KeyDerivation] in
/-- What `cmd_toggle_active` assigns. -/
def toggled (record : AccountRecord) : AccountRecord :=
  { record.revoked with active := some (!record.isActive) }

omit [KeyDerivation] in
/-- `cmd_toggle_active` -/
def cmdToggleActive (desk : Desk) (username answer : String) : Desk :=
  match findByUsername desk.users username with
  | none => desk
  | some _ =>
      if confirms answer then
        { desk with users := editFirst (hasUsername username) toggled desk.users }
      else desk

end IsePortal.Recovery
