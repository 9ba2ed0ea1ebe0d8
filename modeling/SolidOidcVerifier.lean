import SolidOidcVerifier.Acceptance
import SolidOidcVerifier.AccessToken
import SolidOidcVerifier.AddressClasses
import SolidOidcVerifier.AthBinding
import SolidOidcVerifier.CallTrace
import SolidOidcVerifier.Challenge
import SolidOidcVerifier.CnfBinding
import SolidOidcVerifier.CompactJws
import SolidOidcVerifier.Config
import SolidOidcVerifier.Crates
import SolidOidcVerifier.Error
import SolidOidcVerifier.FetchSafety
import SolidOidcVerifier.Foundation.Base64Url
import SolidOidcVerifier.Foundation.Cidr
import SolidOidcVerifier.Foundation.Exec
import SolidOidcVerifier.Foundation.ExpiryMap
import SolidOidcVerifier.Foundation.History
import SolidOidcVerifier.Foundation.IpText
import SolidOidcVerifier.Foundation.MachineInt
import SolidOidcVerifier.Foundation.Mealy
import SolidOidcVerifier.Foundation.Rejections
import SolidOidcVerifier.Foundation.Text
import SolidOidcVerifier.Foundation.TwoRuns
import SolidOidcVerifier.Freshness
import SolidOidcVerifier.Hardening
import SolidOidcVerifier.Interleaving
import SolidOidcVerifier.Json
import SolidOidcVerifier.Jwk
import SolidOidcVerifier.JwksCache
import SolidOidcVerifier.JwksProvenance
import SolidOidcVerifier.JwksProvider
import SolidOidcVerifier.Jwt
import SolidOidcVerifier.Nat64
import SolidOidcVerifier.Net
import SolidOidcVerifier.Noninterference
import SolidOidcVerifier.Possession
import SolidOidcVerifier.ProfileResolver
import SolidOidcVerifier.Replay
import SolidOidcVerifier.ReplayIdeal
import SolidOidcVerifier.ReplayMarks
import SolidOidcVerifier.ReplayRetention
import SolidOidcVerifier.Signature
import SolidOidcVerifier.SingleUse
import SolidOidcVerifier.Ssrf
import SolidOidcVerifier.TimeWindows
import SolidOidcVerifier.Verifier
import SolidOidcVerifier.Webid
import SolidOidcVerifier.LoopbackFlag
import SolidOidcVerifier.ChallengeText
import SolidOidcVerifier.Foundation.JsonText
import SolidOidcVerifier.Nat64Embedding
import SolidOidcVerifier.Thumbprint
import SolidOidcVerifier.KeyWithdrawal
import SolidOidcVerifier.CandidateKeys
import SolidOidcVerifier.Es512Feature
import SolidOidcVerifier.KeyTypes
import SolidOidcVerifier.ToleranceBounds
import SolidOidcVerifier.CertBinding
import SolidOidcVerifier.DnsResolver
import SolidOidcVerifier.ResolverProgress
import SolidOidcVerifier.Foundation.Locked
import SolidOidcVerifier.ReplayThreads
import SolidOidcVerifier.Server
import SolidOidcVerifier.ServerSafety
import SolidOidcVerifier.ServerAcceptance
import SolidOidcVerifier.ServerRefinement
import SolidOidcVerifier.KeyFreshness
import SolidOidcVerifier.ServerWithdrawal
import SolidOidcVerifier.ReplayAdmission
import SolidOidcVerifier.CacheEffect
import SolidOidcVerifier.ServerTransparency
import SolidOidcVerifier.ConformanceShim
import SolidOidcVerifier.ServerTraffic
