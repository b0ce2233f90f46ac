import NodeVolumes.Text.Blank

/-!
# Cloud settings

What it takes to log in to an OpenStack cloud and to choose among its endpoints.

Main statement: `checked_eq_ok_iff` says which settings are complete.
-/

namespace NodeVolumes.Settings

open Text

structure Cloud where
  authUrl : Option String := none
  username : Option String := none
  password : Option String := none
  userDomain : String := "Default"
  projectDomain : String := "Default"
  projectName : Option String := none
  /-- Preferred over the name of the project. -/
  projectId : Option String := none
  region : Option String := none
  /-- Which of a service's endpoints to use. -/
  endpointInterface : String := "public"
  /-- The file with the certificates to trust; without one every certificate is trusted. -/
  certificates : Option String := none
  deriving DecidableEq, Repr

def fileName : String := "flexvol.toml"

/-- A setting that has to be given: what it is, and by which variable or key. -/
inductive Requirement where
  | endpoint
  | user
  | password
  | project
  deriving DecidableEq, Repr

namespace Requirement

def description : Requirement → String
  | .endpoint => "Keystone endpoint"
  | .user => "OpenStack user"
  | .password => "OpenStack password"
  | .project => "OpenStack project"

def variableName : Requirement → String
  | .endpoint => "OS_AUTH_URL"
  | .user => "OS_USERNAME"
  | .password => "OS_PASSWORD"
  | .project => "OS_TENANT_NAME or OS_TENANT_ID"

def key : Requirement → String
  | .endpoint => "auth_url"
  | .user => "username"
  | .password => "password"
  | .project => "tenant_name"

def advice (r : Requirement) : String :=
  "missing " ++ r.description ++ ": set " ++ r.variableName ++ " or add " ++ r.key ++ " to " ++ fileName

end Requirement

inductive Error where
  | missing (requirement : Requirement)
  | unreadable (reason : String)
  deriving DecidableEq, Repr

def Error.message : Error → String
  | .missing r => "missing configuration field: " ++ r.advice
  | .unreadable reason => "configuration parsing failed: " ++ reason

namespace Cloud

def project? (s : Cloud) : Option String :=
  nonBlank? s.projectId

def certificates? (s : Cloud) : Option String :=
  nonBlank? s.certificates

def region? (s : Cloud) : Option String :=
  nonBlank? s.region

/-- Whether a requirement is met; a project may be told by identifier or name. -/
def meets (s : Cloud) : Requirement → Bool
  | .endpoint => (nonBlank? s.authUrl).isSome
  | .user => (nonBlank? s.username).isSome
  | .password => (nonBlank? s.password).isSome
  | .project => s.project?.isSome || (nonBlank? s.projectName).isSome

/-- The requirements in the order in which they are checked. -/
def requirements : List Requirement :=
  [.endpoint, .user, .password, .project]

def missing? (s : Cloud) : Option Requirement :=
  requirements.find? fun r => !s.meets r

/-- Fails with the first requirement that is not met. -/
def checked (s : Cloud) : Except Error Unit :=
  match s.missing? with
  | some r => .error (.missing r)
  | none => .ok ()

theorem checked_eq_ok_iff {s : Cloud} : s.checked = .ok () ↔ ∀ r, s.meets r = true := by
  unfold checked missing?
  constructor
  · intro h r
    split at h
    · cases h
    · rename_i hnone
      have := List.find?_eq_none.1 hnone r (by cases r <;> simp [requirements])
      simpa using this
  · intro h
    have : requirements.find? (fun r => !s.meets r) = none :=
      List.find?_eq_none.2 fun r _ => by simp [h r]
    simp [this]

end Cloud

end NodeVolumes.Settings
