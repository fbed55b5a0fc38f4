import IdpMvp.Program.Pool
import IdpMvp.Service.Consent
import IdpMvp.Service.DirectLogin
import IdpMvp.Store.Effects
import IdpMvp.Sample
import IdpMvp.Token.CodeExchange
import IdpMvp.Token.Inspecting
import IdpMvp.Token.Interleaving
import IdpMvp.Token.Reuse
import IdpMvp.Token.RoundTrip
import IdpMvp.Token.Revocation
import IdpMvp.Program.Aligned
import IdpMvp.Token.Ownership
import IdpMvp.Session.Authorizing
import IdpMvp.Permission.Escalation
import IdpMvp.Service.Invitation
import IdpMvp.Permission.Memberships
import IdpMvp.Permission.Coherence
import IdpMvp.Session.Lockout
import IdpMvp.Session.Entries
import IdpMvp.Session.Prompt
import IdpMvp.Token.Tenants
import IdpMvp.Permission.Invitations
import IdpMvp.Account.Links
import IdpMvp.Account.Registration
import IdpMvp.Tenant.Resolution
import IdpMvp.Service.KeyService
import IdpMvp.Key.Calls
import IdpMvp.Key.Bootstrap
import IdpMvp.Key.Rotation
import IdpMvp.Key.Publication
import IdpMvp.Tenant.Routes
import IdpMvp.Session.Resumption
import IdpMvp.Session.Approvals
import IdpMvp.Token.Subjects
import IdpMvp.Account.Recovery
import IdpMvp.Program.Claim
import IdpMvp.Account.Resetting
import IdpMvp.Token.Atomicity
import IdpMvp.Service.Enrolment
import IdpMvp.Account.Enrolment
import IdpMvp.Client.Overwrites
import IdpMvp.Session.Challenges
import IdpMvp.Client.WellFormed
import IdpMvp.Tenant.Settings
import IdpMvp.Encoding.Percent
import IdpMvp.Service.Logout
import IdpMvp.Session.Logout
import IdpMvp.Service.Discovery
import IdpMvp.Token.Issuers
import IdpMvp.Client.Credentials
import IdpMvp.Domain.Settings
import IdpMvp.Service.Configuration
import IdpMvp.Service.SystemSettings
import IdpMvp.Setting.Starting
import IdpMvp.Setting.Report
import IdpMvp.Timed.Machine
import IdpMvp.Timed.Window
import IdpMvp.Infrastructure.RateLimit
import IdpMvp.Infrastructure.Cache
import IdpMvp.Domain.SamlMetadata
import IdpMvp.Saml.Reading
import IdpMvp.Saml.Provenance
import IdpMvp.Saml.Spelling
import IdpMvp.Setting.Smtp
import IdpMvp.Session.Ticket
import IdpMvp.Service.Account
import IdpMvp.Session.Cookie
import IdpMvp.Markup.Html
import IdpMvp.Session.LogoutPage
import IdpMvp.Session.Lifetime
import IdpMvp.Store.Integrity
