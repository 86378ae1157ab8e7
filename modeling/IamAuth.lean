import IamAuth.Interleave.Prog
import IamAuth.Interleave.Alone
import IamAuth.Interleave.Pool
import IamAuth.Interleave.Spend
import IamAuth.Interleave.Latch
import IamAuth.Relational.Table
import IamAuth.Relational.Order
import IamAuth.Relational.Constraints
import IamAuth.Relational.Evolution
import IamAuth.Schema
import IamAuth.Migrations
import IamAuth.Rls
import IamAuth.Repo.Identity
import IamAuth.Repo.Tokens
import IamAuth.Repo.Tenancy
import IamAuth.Repo.Roles
import IamAuth.Repo.Oauth
import IamAuth.Redis
import IamAuth.Crates
import IamAuth.Statements
import IamAuth.Grpc.Common
import IamAuth.Grpc.Session
import IamAuth.Grpc.Account
import IamAuth.Grpc.Oidc
import IamAuth.Grpc.Admin
import IamAuth.Bootstrap
import IamAuth.System
import IamAuth.Along
import IamAuth.Issued
import IamAuth.Frame
import IamAuth.Sequential
import IamAuth.RefreshTokens
import IamAuth.RoleTenancy
import IamAuth.Totp
import IamAuth.Denylist
import IamAuth.Entitled
import IamAuth.Sessions
import IamAuth.Deleted
import IamAuth.OneTime
import IamAuth.Projects
import IamAuth.Rotation
import IamAuth.Logout
import IamAuth.Offboarding
import IamAuth.PermCache
import IamAuth.Coherence
import IamAuth.CacheWrites
import IamAuth.StaleWrites
import IamAuth.RoleGrants
import IamAuth.Refreshing
import IamAuth.Lockout
import IamAuth.Enumeration
import IamAuth.CodeExchange
import IamAuth.RoleScopes
import IamAuth.Acknowledged
import IamAuth.RoleTxns
import IamAuth.RoleCommits
import IamAuth.RoleUndo
import IamAuth.ApiKeys
import IamAuth.Spelling
import IamAuth.TotpSecrets
import IamAuth.CacheKeys
import IamAuth.KeyLifetimes
import IamAuth.Passwords
import IamAuth.BulkAssign
import IamAuth.UserKeys
import IamAuth.MintedTokens
import IamAuth.Registration
import IamAuth.Enrolments
import IamAuth.Startup
import IamAuth.AccountEvents
import IamAuth.EventOrder
import IamAuth.Integrity
import IamAuth.SigningKeys
import IamAuth.Writes
import IamAuth.WriteIsolation
import IamAuth.Mediation
import IamAuth.Accounts
import IamAuth.Permanence
