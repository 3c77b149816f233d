import Ggid.Lib.Table
import Ggid.Lib.Listing
import Ggid.Lib.Closure
import Ggid.Lib.Hierarchy
import Ggid.Lib.Run
import Ggid.Lib.Threads
import Ggid.Lib.Tiers
import Ggid.Lib.DenyOverrides
import Ggid.Lib.HashLinks
import Ggid.Lib.Framing
import Ggid.Go.Value
import Ggid.Go.Strings
import Ggid.Go.Bytes
import Ggid.Go.Json
import Ggid.Policy.Domain
import Ggid.Policy.Repository
import Ggid.Policy.Match
import Ggid.Policy.Evaluator
import Ggid.Policy.Decision
import Ggid.Policy.FailClosed
import Ggid.Policy.TenantIsolation
import Ggid.Policy.PolicyUpdate
import Ggid.Policy.UnifiedPdp
import Ggid.Policy.PdpCache
import Ggid.Policy.RoleService
import Ggid.Policy.RoleHierarchy
import Ggid.Policy.Jit
import Ggid.Policy.JitBinding
import Ggid.Policy.JitStanding
import Ggid.Policy.EffectivePermissions
import Ggid.OAuth.Domain
import Ggid.OAuth.Repository
import Ggid.OAuth.Grants
import Ggid.OAuth.TokenFamily
import Ggid.OAuth.TokenRotation
import Ggid.OAuth.Scope
import Ggid.OAuth.MemoryRepository
import Ggid.OAuth.AuthorizationCode
import Ggid.OAuth.Client
import Ggid.OAuth.Keys
import Ggid.OAuth.KeyRotation
import Ggid.OAuth.Device
import Ggid.OAuth.DeviceSettlement
import Ggid.OAuth.Ciba
import Ggid.OAuth.CibaSettlement
import Ggid.OAuth.Par
import Ggid.OAuth.TokenExchange
import Ggid.OAuth.AgentIdentity
import Ggid.OAuth.AgentDelegation
import Ggid.OAuth.MixedDelegation
import Ggid.OAuth.TokenRevocation
import Ggid.Audit.HashChain
import Ggid.Audit.SecretRotation
import Ggid.Audit.ChainIntegrity
import Ggid.Audit.Repository
import Ggid.Audit.ChainOrder
import Ggid.Audit.TamperCheck
import Ggid.Audit.Columns
import Ggid.Audit.AuditService
import Ggid.Audit.Retention
import Ggid.Audit.ReadBack
import Ggid.Audit.ConcurrentInsert
import Ggid.Identity.Filter
import Ggid.Identity.FilterGrammar
import Ggid.Identity.FilterParsing
import Ggid.Identity.FilterPrinting
import Ggid.Go.Heap
import Ggid.Identity.Evaluate
import Ggid.Identity.Patch
import Ggid.Identity.PatchSharing
import Ggid.Identity.UserHandler
import Ggid.Identity.Bulk
import Ggid.Identity.BulkAgreement
import Ggid.Lib.Overwrites
import Ggid.Identity.ETag
import Ggid.Identity.Rebac
import Ggid.Identity.RebacCheck
import Ggid.Identity.RebacList
import Ggid.Identity.RebacCache
import Ggid.Gateway.Jwks
import Ggid.Gateway.Request
import Ggid.Gateway.Route
import Ggid.Gateway.Proxy
import Ggid.Gateway.Rbac
import Ggid.Gateway.Alias
import Ggid.Gateway.RbacResolver
import Ggid.Gateway.Tenant
import Ggid.Auth.Sessions
import Ggid.Auth.Credentials
import Ggid.Auth.Passwords
import Ggid.Auth.SessionEnd
import Ggid.Gateway.SessionTimeout
import Ggid.Auth.Lockout
import Ggid.Auth.Mfa
import Ggid.Auth.WebAuthn
import Ggid.Auth.AuthTickets
import Ggid.Auth.SignCount
import Ggid.Auth.JtiRevocation
import Ggid.Auth.BackupCodes
import Ggid.Gateway.Circuit
import Ggid.Gateway.CircuitPeriods
import Ggid.Auth.AccountLockout
import Ggid.Org.OrgHierarchy
import Ggid.Org.References
import Ggid.Org.Paths
import Ggid.Gateway.SlidingRateLimit
import Ggid.Middleware.InternalAuth
import Ggid.Gateway.ApiKeyCache
import Ggid.Gateway.Coalesce
import Ggid.Go.Base64
import Ggid.Go.Xml
import Ggid.Saml.Assertion
import Ggid.Saml.SignedAssertion
import Ggid.Saml.SignatureWrapping
import Ggid.Policy.PermissionInheritance
import Ggid.Policy.PolicyVersioning
import Ggid.Crypto.FieldEncryption
import Ggid.Crypto.FieldRoundTrip
import Ggid.Gateway.GraphQL
import Ggid.Org.Departments
import Ggid.Identity.Groups
import Ggid.Gateway.Webhooks
import Ggid.Audit.SiemForwarder
import Ggid.Policy.ReviewCampaign
import Ggid.Policy.CampaignRuns
import Ggid.Identity.ValuePath
import Ggid.Lib.Scattered
import Ggid.Policy.Glob
import Ggid.Gateway.RbacDecision
import Ggid.Gateway.RouteBoundaries
import Ggid.Identity.GroupPages
import Ggid.Gateway.MultiDimLimit
import Ggid.Gateway.TokenBucket
import Ggid.Go.Trees
import Ggid.Identity.MemberFilter
import Ggid.Identity.PatchErrors
import Ggid.Identity.FilterOrder
import Ggid.Auth.Attestation
import Ggid.Gateway.IpFilter
import Ggid.Gateway.MultiDimCount
import Ggid.Gateway.SlidingWindow
import Ggid.Go.XmlContent
import Ggid.Go.XmlElement
import Ggid.Lib.FirstMatch
import Ggid.Policy.ConditionGroups
import Ggid.Policy.ConditionalAccess
import Ggid.Policy.DelegationValidator
import Ggid.Rbac.RoutePermissions
import Ggid.Saml.ResponseAssertion
