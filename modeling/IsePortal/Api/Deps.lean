import IsePortal.Accounts.UserStore
import IsePortal.Ise.Server

/-!
# Who may call a route

The role guards of `app/api/deps.py` and the helpers of `app/api/_endpoint_api_helpers.py` that
derive from the user what a route may show. `None` as the scope means that nothing is filtered.
-/

namespace IsePortal

/-- `User`: who makes a request, read from the user store or the token at every request. -/
structure User where
  username : String
  role : Role
  assignedEndpointRoles : List String := []

/-- The value of a role in tokens and texts. -/
def Role.value : Role → String
  | .admin => "admin"
  | .editor => "editor"
  | .editorPsk => "editor-psk"
  | .viewer => "viewer"
  | .registrant => "registrant"
  | .registrantTemplet => "registrant_templet"

/-- `effective_roles`: the assigned roles and the username, each once. -/
def effectiveRoles (user : User) : List String :=
  (user.assignedEndpointRoles ++ [user.username]).eraseDups

/-- `_scope_for` -/
def scopeFor (user : User) : Option (List String) :=
  if user.role = .admin then none else some (effectiveRoles user)

/-- `_autotag_for` -/
def autotagFor (user : User) : Option String :=
  if user.role = .admin then none else some user.username

/-- `_is_psk_editor_for` -/
def isPskEditorFor (user : User) : Bool := user.role ∈ [Role.admin, .editorPsk]

/-- `require_roles`: the roles a route admits. -/
def requireRoles (roles : List Role) (user : User) : Except HttpError Unit :=
  if user.role ∈ roles then .ok ()
  else
    .error
      { statusCode := 403
        detail := "Kræver en af rollerne: " ++ ", ".intercalate (roles.map Role.value) }

/-- `require_editor` -/
def requireEditor : List Role := [.admin, .editor]
/-- `require_any` -/
def requireAny : List Role := [.admin, .editor, .editorPsk, .viewer]
/-- `require_edit_endpoint` -/
def requireEditEndpoint : List Role := [.admin, .editor, .editorPsk]
/-- `require_register_lookup` -/
def requireRegisterLookup : List Role :=
  [.admin, .editor, .editorPsk, .viewer, .registrant, .registrantTemplet]

/-- `_ise_http_error` -/
def iseHttpError (exc : IseApiError) : HttpError :=
  if exc.statusCode = 404 then { statusCode := 404, detail := "Endpoint ikke fundet" }
  else if exc.statusCode = 0 then
    { statusCode := 503, detail := "ISE er midlertidigt utilgængelig — prøv igen om lidt" }
  else
    { statusCode := 502
      detail := "ISE returnerede en uventet fejl (HTTP " ++ toString exc.statusCode ++ ")" }

/-- A route behind a role guard. -/
def guarded {α : Type} (roles : List Role) (user : User) (route : Except HttpError α) :
    Except HttpError α :=
  match requireRoles roles user with
  | .error refused => .error refused
  | .ok () => route

theorem guarded_of_mem {α : Type} {roles : List Role} {user : User}
    (route : Except HttpError α) (h : user.role ∈ roles) : guarded roles user route = route := by
  simp [guarded, requireRoles, h]

/-- The refusal of a role does not depend on the route behind it. -/
theorem guarded_of_not_mem {α : Type} {roles : List Role} {user : User}
    (route other : Except HttpError α) (h : user.role ∉ roles) :
    guarded roles user route = guarded roles user other := by
  simp [guarded, requireRoles, h]

end IsePortal
