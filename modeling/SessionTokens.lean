import SessionTokens.Address.Basic
import SessionTokens.Address.Host
import SessionTokens.Algorithm
import SessionTokens.Armour.Der
import SessionTokens.Armour.Pem
import SessionTokens.Bytes
import SessionTokens.Cipher.Aes
import SessionTokens.Claims
import SessionTokens.Cookie
import SessionTokens.Decimal.Binary64
import SessionTokens.Decimal.Reading
import SessionTokens.Decimal.Shortest
import SessionTokens.Hash.Keyed
import SessionTokens.Hash.Sha2
import SessionTokens.Json.Basic
import SessionTokens.Json.Exact
import SessionTokens.Json.Layout
import SessionTokens.Json.Members
import SessionTokens.Json.Number
import SessionTokens.Json.Parser
import SessionTokens.Json.Printer
import SessionTokens.Key.Armoured
import SessionTokens.Key.Effective
import SessionTokens.Key.Encrypted
import SessionTokens.Key.Error
import SessionTokens.Key.Manager
import SessionTokens.Key.Material
import SessionTokens.Key.Pair
import SessionTokens.Lookup
import SessionTokens.Number.Certificate
import SessionTokens.Proofs.Bytes
import SessionTokens.Proofs.Decimal.Rounding
import SessionTokens.Proofs.Decimal.Shortest
import SessionTokens.Proofs.Json.Exact
import SessionTokens.Proofs.Json.Layout
import SessionTokens.Proofs.Json.Members
import SessionTokens.Proofs.Json.Number
import SessionTokens.Proofs.Json.Range
import SessionTokens.Proofs.Json.Reading
import SessionTokens.Proofs.Json.Sized
import SessionTokens.Proofs.Key.Loading
import SessionTokens.Proofs.Key.Pair
import SessionTokens.Proofs.Lookup
import SessionTokens.Proofs.Lookup.Rules
import SessionTokens.Proofs.Number.Certificate
import SessionTokens.Proofs.Outcome
import SessionTokens.Proofs.Request.Cookie
import SessionTokens.Proofs.Request.Field
import SessionTokens.Proofs.Request.Form
import SessionTokens.Proofs.Request.Precedence
import SessionTokens.Proofs.Request.Transport
import SessionTokens.Proofs.Session.Cleanup
import SessionTokens.Proofs.Session.Content
import SessionTokens.Proofs.Session.CookieDelivery
import SessionTokens.Proofs.Session.Delivery
import SessionTokens.Proofs.Session.Echo
import SessionTokens.Proofs.Session.Effect
import SessionTokens.Proofs.Session.FailedRotation
import SessionTokens.Proofs.Session.Gate
import SessionTokens.Proofs.Session.Handout
import SessionTokens.Proofs.Session.Identity
import SessionTokens.Proofs.Session.Interleaving
import SessionTokens.Proofs.Session.Isolation
import SessionTokens.Proofs.Session.Lifetime
import SessionTokens.Proofs.Session.Matching
import SessionTokens.Proofs.Session.OneRecord
import SessionTokens.Proofs.Session.Opening
import SessionTokens.Proofs.Session.OwnToken
import SessionTokens.Proofs.Session.Ownership
import SessionTokens.Proofs.Session.Preparation
import SessionTokens.Proofs.Session.RedisSetter
import SessionTokens.Proofs.Session.ReportedExpiry
import SessionTokens.Proofs.Session.Runs
import SessionTokens.Proofs.Session.SingleUse
import SessionTokens.Proofs.Session.Trust
import SessionTokens.Proofs.Session.Window
import SessionTokens.Proofs.Settings.Environment
import SessionTokens.Proofs.Settings.File
import SessionTokens.Proofs.Settings.Override
import SessionTokens.Proofs.Settings.Path
import SessionTokens.Proofs.Settings.RoundTrip
import SessionTokens.Proofs.Settings.Sections
import SessionTokens.Proofs.Settings.Spelling
import SessionTokens.Proofs.Signature.Curve
import SessionTokens.Proofs.Signature.Group
import SessionTokens.Proofs.Signature.Rsa
import SessionTokens.Proofs.Signature.Scaled
import SessionTokens.Proofs.Signature.Standard
import SessionTokens.Proofs.Store.Alike
import SessionTokens.Proofs.Store.Connection
import SessionTokens.Proofs.Store.History
import SessionTokens.Proofs.Store.Memory
import SessionTokens.Proofs.Text.Base64
import SessionTokens.Proofs.Text.Blank
import SessionTokens.Proofs.Text.Percent
import SessionTokens.Proofs.Text.Split
import SessionTokens.Proofs.Text.Utf8
import SessionTokens.Proofs.Time.Instant
import SessionTokens.Proofs.Token.Alphabet
import SessionTokens.Proofs.Token.Authentic
import SessionTokens.Proofs.Token.Issue
import SessionTokens.Proofs.Token.KeyPair
import SessionTokens.Proofs.Token.Payload
import SessionTokens.Proofs.Token.Readable
import SessionTokens.Proofs.Token.RoundTrip
import SessionTokens.Proofs.Token.Verdict
import SessionTokens.Request.Basic
import SessionTokens.Request.Target
import SessionTokens.Request.Transport
import SessionTokens.Service.Demo
import SessionTokens.Service.MediaType
import SessionTokens.Service.Reply
import SessionTokens.Service.Routes
import SessionTokens.Session.Builder
import SessionTokens.Session.Describe
import SessionTokens.Session.Engine
import SessionTokens.Session.Error
import SessionTokens.Session.History
import SessionTokens.Session.Interleaving
import SessionTokens.Session.Isolation
import SessionTokens.Session.Operations
import SessionTokens.Session.Pair
import SessionTokens.Session.Policy
import SessionTokens.Session.RedisSetter
import SessionTokens.Session.Rotation
import SessionTokens.Settings.Expressible
import SessionTokens.Settings.File
import SessionTokens.Settings.Path
import SessionTokens.Settings.Sections
import SessionTokens.Settings.Session
import SessionTokens.Settings.Setting
import SessionTokens.Settings.Texts
import SessionTokens.Settings.Toml.Document
import SessionTokens.Settings.Toml.Scalar
import SessionTokens.Settings.Toml.Text
import SessionTokens.Settings.Toml.Tree
import SessionTokens.Settings.Yaml.Document
import SessionTokens.Settings.Yaml.Scalar
import SessionTokens.Settings.Yaml.Text
import SessionTokens.Signature.Curve
import SessionTokens.Signature.Rsa
import SessionTokens.Signature.Scaled
import SessionTokens.Store.Basic
import SessionTokens.Store.Cleanup
import SessionTokens.Store.Config
import SessionTokens.Store.Error
import SessionTokens.Store.History
import SessionTokens.Store.Memory
import SessionTokens.Store.Redis
import SessionTokens.Text.Base64
import SessionTokens.Text.Case
import SessionTokens.Text.Percent
import SessionTokens.Text.Quoted
import SessionTokens.Text.Split
import SessionTokens.Text.Utf8
import SessionTokens.Time.Calendar
import SessionTokens.Time.Instant
import SessionTokens.Time.Span
import SessionTokens.Token.Authentic
import SessionTokens.Token.Codec
import SessionTokens.Token.Error
import SessionTokens.Token.Header
