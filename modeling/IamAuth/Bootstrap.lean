import IamAuth.Grpc.Admin

/-!
# main.rs: the start of a service

bootstrap_admin, bootstrap_oidc_client and bootstrap_demo, in that order. The
first error ends the start, and the service does not serve. saga.rs is the other
writer outside grpc.rs: it only records an audit event.
-/

set_option autoImplicit false

namespace IamAuth

open Interleave

/-- The environment variables the three functions read. -/
structure BootstrapEnv where
  adminEmail : String
  adminPassword : String
  consoleClientId : String
  consoleSecret : String
  consoleRedirectUris : String
  demoEmail : String
  demoPassword : String
  deriving DecidableEq, Repr

/-- An `anyhow` error of a start. -/
def startError : Failure := internal "bootstrap failed"

section

variable (cr : Crates)

/-- What bootstrap_admin and bootstrap_demo share: a new identity with the
named role, and its membership of the default tenant. -/
def bootstrapUser (email pass role : String) : Handler Unit :=
  if email.isEmpty || pass.isEmpty then pure ()
  else do
    match ← query (.getUserByEmail email) startError with
    | some _ => pure ()
    | none => do
      let hash ← Prog.okOr (← sys (.hashPassword pass)) startError
      let id ← query (.createUserWithRole email hash role) startError
      query (.createMembership id defaultTenantId) startError

def bootstrapAdmin (e : BootstrapEnv) : Handler Unit :=
  bootstrapUser e.adminEmail e.adminPassword "admin"

def bootstrapDemo (e : BootstrapEnv) : Handler Unit :=
  bootstrapUser e.demoEmail e.demoPassword "viewer"

/-- `str::trim` on ASCII. -/
def trim (s : String) : String :=
  String.ofList ((s.toList.dropWhile (·.isWhitespace)).reverse.dropWhile (·.isWhitespace)).reverse

/-- The `INSERT` names no tenant, so the client gets the default one. -/
def bootstrapOidcClient (e : BootstrapEnv) : Handler Unit :=
  query (.insertConsoleClient ⟨e.consoleClientId, some (cr.sha256Hex e.consoleSecret),
    "IAM Admin Console", (splitAtChar ',' e.consoleRedirectUris).map trim, clientGrantTypes,
    ["openid", "profile", "email"], true, defaultTenantId⟩) startError

def bootstrap (e : BootstrapEnv) : Handler Unit := do
  bootstrapAdmin e
  bootstrapOidcClient cr e
  bootstrapDemo e

/-! ## saga.rs -/

/-- One `ProfileCreationFailed` event: the identity stays, the incident is
recorded, and the message is acknowledged in any case. -/
def profileCreationFailed (userId reason : String) : Handler Unit :=
  match cr.parseUuid userId with
  | none => pure ()
  | some _ => ignore (.insertAudit "system" "saga" "profile.creation_failed" userId reason none)

end

end IamAuth
