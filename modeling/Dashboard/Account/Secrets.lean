import Dashboard.Account.PasswordRecord
import Dashboard.Digest.Sha256

/-!
# Secrets

Passwords and session tokens are kept in forms that do not give them away. The
operations on accounts are stated over any such scheme, and one scheme is standard.
-/

namespace Dashboard.Account

/-- How secrets are kept. -/
structure SecretScheme where
  /-- The record of a password under a salt, when there is one. -/
  recordOf : List UInt8 → String → Option String
  /-- Whether a record is the one of a password; `none` when it is no record. -/
  opens : String → String → Option Bool
  /-- The text under which the session of a token is kept. -/
  tokenKey : String → String

namespace SecretScheme

/-- The text under which a token is kept: its digest in the alphabet of addresses. -/
def tokenDigest (token : String) : String :=
  String.ofList (Text.Base64.encode Text.Base64.addressAlphabet
    (Digest.Sha256.digest (Text.Utf8.ofString token)))

/-- Passwords as password records, tokens as digests. -/
def standard : SecretScheme where
  recordOf := PasswordRecord.ofPassword?
  opens record password := (PasswordRecord.ofText? record).map fun written =>
    written.opens password
  tokenKey := tokenDigest

end SecretScheme

/-- What an operation takes from the world: the time in seconds and octets that
nobody can foresee. -/
structure Draws where
  now : Int
  /-- Sixteen octets for a salt. -/
  salt : List UInt8
  /-- Thirty-two octets for a token. -/
  token : List UInt8
  /-- Sixteen octets for an identifier. -/
  identifier : List UInt8
  deriving DecidableEq, Repr

/-- The token made of drawn octets. -/
def Draws.tokenText (draws : Draws) : String :=
  String.ofList (Text.Base64.encode Text.Base64.addressAlphabet draws.token)

end Dashboard.Account
