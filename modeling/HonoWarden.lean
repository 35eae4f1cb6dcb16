import HonoWarden.Vault.Durable
import HonoWarden.Vault.Placement
import HonoWarden.Organization.Invitations
import HonoWarden.Notification.Isolation
import HonoWarden.AdminClient.Keyring
import HonoWarden.AdminClient.Sync
import HonoWarden.AdminClient.SyncKeys
import HonoWarden.AdminClient.Refresh
import HonoWarden.Rotation.Validation
import HonoWarden.Defense.PasswordGrant
import HonoWarden.Lifecycle.Verification
import HonoWarden.Passkey.Registration
import HonoWarden.Session.TrustedDevices
import HonoWarden.EmailVerification.Challenge
import HonoWarden.Prelogin.Kdf
import HonoWarden.Mfa.RotationRun
import HonoWarden.Organization.CompanySettings
import HonoWarden.Registration.InitialSetup
import HonoWarden.TextSend.Access
import HonoWarden.Web.Base64
import HonoWarden.Web.Utf8
import HonoWarden.Credential.WrapperFingerprint
import HonoWarden.Web.JsonSyntax
import HonoWarden.Web.Json
import HonoWarden.EmailVerification.UniqueJson
import HonoWarden.Web.JsonInteger
import HonoWarden.Web.SignedToken
import HonoWarden.Web.TextSize
import HonoWarden.Web.Bits
import HonoWarden.Web.Csv
import HonoWarden.Web.SealedBlock
import HonoWarden.Web.Cbc
import HonoWarden.Web.Instant
import HonoWarden.Web.Date
import HonoWarden.Relational.Keyset
import HonoWarden.Vault.Paging
import HonoWarden.Token.Keyring
import HonoWarden.Token.Issue
import HonoWarden.Token.AttachmentDownload
import HonoWarden.Token.AccessToken
import HonoWarden.Mail.Delivery
import HonoWarden.Mail.Envelope
import HonoWarden.Mfa.Base32
import HonoWarden.Mfa.TotpCode
import HonoWarden.Audit.Record
import HonoWarden.Audit.Csv
import HonoWarden.Audit.Cursor
import HonoWarden.Audit.Paging
import HonoWarden.AdminClient.EncString
import HonoWarden.Backup.RestoreOrder
import HonoWarden.TextSend.Instant
import HonoWarden.Protocol.Trust
import HonoWarden.Relational.RowWrites
import HonoWarden.EmergencyAccess.Repository
import HonoWarden.Relational.Gated
import HonoWarden.EmergencyAccess.Refinement
import HonoWarden.Credential.Generation
import HonoWarden.Credential.Repository
import HonoWarden.Credential.KeyPair
import HonoWarden.Relational.Manifest
import HonoWarden.Rotation.Snapshot
import HonoWarden.Rotation.Repository
import HonoWarden.Rotation.Atomic
import HonoWarden.Rotation.Vault
import HonoWarden.Rotation.Outcome
import HonoWarden.Rotation.Fresh
import HonoWarden.Credential.Change
