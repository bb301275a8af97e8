import GhostProtocol.Client.UserId
import GhostProtocol.Common.Config
import GhostProtocol.Foundation.HkdfSha256

/-!
# Certificate pinning

A disguised server signs a new certificate at every start, and the client
expects the digest of the certificate to be the shared key.  The key plays no
part in the certificate, so the client cannot accept what every start gives.
-/

namespace GhostProtocol

open Foundation Common

namespace Server

/-- What the server asks its certificate library to sign. -/
structure CertificateParams where
  commonName : String
  dnsName : String
  deriving DecidableEq

/-- The certificate and TLS libraries of the server: whether a text is an IA5
string, as a name in a certificate has to be, the self-signed certificate of a
key pair, in DER, and whether the TLS library takes it with its private key. -/
structure CertificateLibrary (KeyPair : Type) where
  isIa5 : String → Bool
  selfSigned : CertificateParams → KeyPair → Except String Bytes
  withSingleCert : Bytes → KeyPair → Except String Unit

/-- Why the server has no TLS configuration. -/
inductive TlsConfigError
  | invalidDomain
  | certificateGeneration (reason : String)
  | tlsConfig (reason : String)
  deriving DecidableEq

/-- The certificate of a disguised server that has generated a key pair. -/
def buildRealityTlsConfig
    (library : CertificateLibrary KeyPair)
    (maskDomain : String)
    (keyPair : KeyPair) : Except TlsConfigError Bytes :=
  if library.isIa5 maskDomain = false then .error .invalidDomain
  else
    match library.selfSigned
        { commonName := maskDomain, dnsName := maskDomain } keyPair with
    | .error reason => .error (.certificateGeneration reason)
    | .ok certDer =>
        match library.withSingleCert certDer keyPair with
        | .error reason => .error (.tlsConfig reason)
        | .ok () => .ok certDer

end Server

namespace Client

/-- The verifier of the server's certificate. -/
structure FingerprintVerifier where
  expected : Block 32
  deriving DecidableEq

/-- Check a certificate by its digest. -/
def FingerprintVerifier.verifyServerCert
    (digest : Bytes → Block 32)
    (self : FingerprintVerifier)
    (endEntity : Bytes) : Except String Unit :=
  let fp := digest endEntity
  if fp = self.expected then .ok ()
  else .error ("Certificate fingerprint mismatch: expected " ++
    hexEncode self.expected.toList ++ ", got " ++ hexEncode fp.toList)

/-- The verifier that expects the digest given by a key. -/
def buildRealityTlsConfig
    (realityAuthKey : String) : Outcome AnyError FingerprintVerifier :=
  match parseHex32 realityAuthKey with
  | .error (.error (.message text)) =>
      .error (.error (.message ("Invalid reality_auth_key: " ++ text)))
  | .error error => .error error
  | .ok expected => .ok { expected }

/-- A certificate is accepted exactly when its digest is the expected one. -/
theorem FingerprintVerifier.verifyServerCert_eq_ok
    (digest : Bytes → Block 32)
    (verifier : FingerprintVerifier)
    (endEntity : Bytes) :
    verifier.verifyServerCert digest endEntity = .ok () ↔
      digest endEntity = verifier.expected := by
  rw [verifyServerCert]
  split_ifs with same
  · simp [same]
  · simp [same]

end Client

namespace Session

/-- Whatever key pair a server generates, a client with the shared key accepts
the certificate that the server builds. -/
def PinAccepted
    (library : Server.CertificateLibrary KeyPair)
    (digest : Bytes → Block 32)
    (maskDomain realityAuthKey : String) : Prop :=
  ∀ keyPair cert,
    Server.buildRealityTlsConfig library maskDomain keyPair = .ok cert →
    ∃ verifier,
      Client.buildRealityTlsConfig realityAuthKey = .ok verifier ∧
      verifier.verifyServerCert digest cert = .ok ()

/-- A client accepts one digest only. -/
theorem PinAccepted.digest_eq
    {library : Server.CertificateLibrary KeyPair}
    {digest : Bytes → Block 32}
    {maskDomain realityAuthKey : String}
    (accepted : PinAccepted library digest maskDomain realityAuthKey)
    {first second : KeyPair}
    {firstCert secondCert : Bytes}
    (firstBuilt :
      Server.buildRealityTlsConfig library maskDomain first = .ok firstCert)
    (secondBuilt :
      Server.buildRealityTlsConfig library maskDomain second =
        .ok secondCert) :
    digest firstCert = digest secondCert := by
  obtain ⟨verifier, configured, firstAccepted⟩ :=
    accepted first firstCert firstBuilt
  obtain ⟨other, otherConfigured, secondAccepted⟩ :=
    accepted second secondCert secondBuilt
  obtain rfl := Except.ok.inj (configured.symm.trans otherConfigured)
  rw [Client.FingerprintVerifier.verifyServerCert_eq_ok]
    at firstAccepted secondAccepted
  exact firstAccepted.trans secondAccepted.symm

/-- Two key pairs give certificates with different digests, if the domain can
stand in a certificate. -/
def FreshCertificates
    (library : Server.CertificateLibrary KeyPair)
    (digest : Bytes → Block 32)
    (maskDomain : String) : Prop :=
  library.isIa5 maskDomain = true →
    ∃ first second firstCert secondCert,
      Server.buildRealityTlsConfig library maskDomain first = .ok firstCert ∧
      Server.buildRealityTlsConfig library maskDomain second =
        .ok secondCert ∧
      digest firstCert ≠ digest secondCert

/-- The certificates of all starts are accepted only if there are none: the
mask domain cannot stand in a certificate. -/
theorem pinAccepted_iff
    (library : Server.CertificateLibrary KeyPair)
    (digest : Bytes → Block 32)
    (maskDomain realityAuthKey : String)
    (fresh : FreshCertificates library digest maskDomain) :
    PinAccepted library digest maskDomain realityAuthKey ↔
      library.isIa5 maskDomain = false := by
  constructor
  · intro accepted
    by_contra valid
    obtain ⟨first, second, firstCert, secondCert, firstBuilt, secondBuilt,
      different⟩ := fresh (Bool.eq_true_of_not_eq_false valid)
    exact different (accepted.digest_eq firstBuilt secondBuilt)
  · intro invalid keyPair cert built
    rw [Server.buildRealityTlsConfig, if_pos invalid] at built
    cases built

/-- A library whose certificates consist of the domain and the key. -/
def plainLibrary : Server.CertificateLibrary UInt8 where
  isIa5 text := text.toList.all fun char => char.toNat < 128
  selfSigned params key :=
    .ok (Text.utf8Bytes params.commonName ++ [key])
  withSingleCert _ _ := .ok ()

/-- That library gives certificates with different SHA-256 digests. -/
theorem freshCertificates_plainLibrary :
    FreshCertificates plainLibrary HkdfSha256.sha256 "www.apple.com" := by
  intro _
  refine ⟨0, 1, _, _, rfl, rfl, ?_⟩
  decide +kernel

/-- No key is accepted for the certificates of a real domain. -/
theorem pinAccepted_iff_apple :
    PinAccepted plainLibrary HkdfSha256.sha256 "www.apple.com"
        ClientConfig.default.realityAuthKey ↔
      plainLibrary.isIa5 "www.apple.com" = false :=
  pinAccepted_iff plainLibrary HkdfSha256.sha256 "www.apple.com"
    ClientConfig.default.realityAuthKey freshCertificates_plainLibrary

/-- The certificates of the default domain are not all accepted with the default
key. -/
theorem not_pinAccepted_default :
    ¬ PinAccepted plainLibrary HkdfSha256.sha256 "www.apple.com"
        ClientConfig.default.realityAuthKey := by
  intro accepted
  obtain ⟨first, second, firstCert, secondCert, firstBuilt, secondBuilt,
    different⟩ := freshCertificates_plainLibrary (by decide)
  exact different (accepted.digest_eq firstBuilt secondBuilt)

end Session
end GhostProtocol
