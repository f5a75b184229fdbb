/-
# The certificates of the TLS listener

`tls.rs` keeps, for every name a certificate is configured for, the resolver that answers with
the certificate.  The resolver of a certificate is shared: the table of names and the manager
of the certificates refer to the same one, and setting its certificate is visible to both.  A
reference to a resolver is its number here.  Parsing PEM and checking a key against its
certificate are parameters.
-/
import Mathlib.Data.List.MinMax
import GateRust.Lib.HashMap
import GateRust.Proxy.CertificateCache

namespace GateRust.Proxy

/-- The number of a shared `DirectResolver`. -/
abbrev ResolverRef := Nat

structure CertifiedKey where
  certificates : List Bytes
  signingKey : Bytes
deriving DecidableEq

/-- The parts of `rustls` that `set_pem` uses. -/
structure TlsLibraries where
  certs : Bytes → Except ProxyError (List Bytes)
  privateKey : Bytes → Except ProxyError (Option Bytes)
  anySupportedType : Bytes → Except String Bytes
  keysMatch : CertifiedKey → Except String Unit

/-- The certificate that `set_pem` puts into a `DirectResolver`. -/
def TlsLibraries.setPem (lib : TlsLibraries) (certificatePem privateKeyPem : Bytes) :
    Except ProxyError CertifiedKey := do
  let certificates ← lib.certs certificatePem
  if certificates = [] then throw (.tls "证书链为空")
  let some privateKey ← lib.privateKey privateKeyPem | throw (.tls "未找到私钥")
  let signingKey ← match lib.anySupportedType privateKey with
    | .ok key => pure key
    | .error error => throw (.tls ("私钥格式不受支持: " ++ error))
  match lib.keysMatch ⟨certificates, signingKey⟩ with
  | .ok _ => pure ⟨certificates, signingKey⟩
  | .error error => throw (.tls ("证书与私钥不匹配: " ++ error))

/-- `wildcard_matches` of `config.rs`: the host is one label, a dot and the suffix. -/
def wildcardMatches (host suffix : String) : Bool :=
  (suffix.toList.isSuffixOf? host.toList).any fun front =>
    front.getLast? = some '.' && '.' ∉ front.dropLast

structure ResolverEntry where
  owner : String
  resolver : ResolverRef
deriving DecidableEq, Repr

/-- The names that have a certificate; a wildcard is stored by what follows `*.`. -/
structure CertificateResolver where
  exact : HashMap String ResolverEntry
  wildcard : HashMap String ResolverEntry

namespace CertificateResolver

def new : CertificateResolver := ⟨∅, ∅⟩

/-- What follows the `*.` of a wildcard. -/
def wildcardSuffix (domain : String) : Option String :=
  match domain.toList with
  | '*' :: '.' :: suffix => some (String.ofList suffix)
  | _ => none

/-- The names of `owner` disappear. -/
def remove (r : CertificateResolver) (owner : String) : CertificateResolver :=
  ⟨r.exact.retain fun _ entry => entry.owner ≠ owner,
    r.wildcard.retain fun _ entry => entry.owner ≠ owner⟩

def insertDomain (r : CertificateResolver) (entry : ResolverEntry) (domain : String) :
    CertificateResolver :=
  match wildcardSuffix domain with
  | some suffix => { r with wildcard := r.wildcard.insert suffix entry }
  | none => { r with exact := r.exact.insert domain entry }

/-- The names of `owner` are replaced by `domains`. -/
def replaceDirect (r : CertificateResolver) (owner : String) (domains : List String)
    (resolver : ResolverRef) : CertificateResolver :=
  domains.foldl (fun r domain => r.insertDomain ⟨owner, resolver⟩ domain) (r.remove owner)

/-- The entry that answers for a server name: an exact name before a wildcard, and of the wildcards
the longest. -/
def resolverFor (r : CertificateResolver) (serverName : String) : Option ResolverEntry :=
  (r.exact.lookup serverName).or
    (((r.wildcard.entries.filter fun e => wildcardMatches serverName e.1).argmax
      fun e => e.1.utf8ByteSize).map Sigma.snd)

end CertificateResolver

end GateRust.Proxy
