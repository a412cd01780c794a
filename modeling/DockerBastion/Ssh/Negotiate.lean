import DockerBastion.Ssh.Cipher

/-!
# The choice of algorithms

Both sides list the names they know, for each direction of the connection; chosen is the
first name of the client that the server has too.
-/

namespace DockerBastion.Ssh

open Foundation Sshd

inductive CreateFunc where
  | newAESCTR
  | newRC4
  /-- AES-GCM is constructed elsewhere. -/
  | nil
  deriving DecidableEq, Repr

structure StreamCipherMode where
  keySize : Nat
  ivSize : Nat
  skip : Nat
  createFunc : CreateFunc
  deriving DecidableEq, Repr

def gcmCipherID : Bytes := ascii "aes128-gcm@openssh.com"

def cipherModes : List (Bytes × StreamCipherMode) :=
  [(ascii "aes128-ctr", ⟨16, 16, 0, .newAESCTR⟩),
    (ascii "aes192-ctr", ⟨24, 16, 0, .newAESCTR⟩),
    (ascii "aes256-ctr", ⟨32, 16, 0, .newAESCTR⟩),
    (ascii "arcfour128", ⟨16, 0, 1536, .newRC4⟩),
    (ascii "arcfour256", ⟨32, 0, 1536, .newRC4⟩),
    (ascii "arcfour", ⟨16, 0, 0, .newRC4⟩),
    (gcmCipherID, ⟨16, 12, 0, .nil⟩)]

structure MacMode where
  keySize : Nat
  /-- The digest of 20 bytes is cut to this length. -/
  size : Nat
  size_le : size ≤ 20 := by decide

def macModes : List (Bytes × MacMode) :=
  [(ascii "hmac-sha1", { keySize := 20, size := 20 }),
    (ascii "hmac-sha1-96", { keySize := 20, size := 12 })]

/-- The names in `kexAlgoMap`. -/
def kexAlgoNames : List Bytes :=
  [ascii "diffie-hellman-group1-sha1", ascii "diffie-hellman-group14-sha1",
    ascii "ecdh-sha2-nistp521", ascii "ecdh-sha2-nistp384", ascii "ecdh-sha2-nistp256"]

def supportedCiphers : List Bytes :=
  [ascii "aes128-ctr", ascii "aes192-ctr", ascii "aes256-ctr", gcmCipherID, ascii "arcfour256",
    ascii "arcfour128"]

def supportedKexAlgos : List Bytes :=
  [ascii "ecdh-sha2-nistp256", ascii "ecdh-sha2-nistp384", ascii "ecdh-sha2-nistp521",
    ascii "diffie-hellman-group14-sha1", ascii "diffie-hellman-group1-sha1"]

def supportedMACs : List Bytes := [ascii "hmac-sha1", ascii "hmac-sha1-96"]

def supportedCompressions : List Bytes := [ascii "none"]

/-! ## The lists -/

structure Config where
  rekeyThreshold : UInt64
  keyExchanges : Option (List Bytes)
  ciphers : Option (List Bytes)
  macs : Option (List Bytes)

def minRekeyThreshold : UInt64 := 256

def Config.setDefaults (c : Config) : Config :=
  let threshold := if c.rekeyThreshold = 0 then (1 : UInt64) <<< 30 else c.rekeyThreshold
  { rekeyThreshold := if threshold < minRekeyThreshold then minRekeyThreshold else threshold
    keyExchanges := some (c.keyExchanges.getD supportedKexAlgos)
    ciphers := some (c.ciphers.getD supportedCiphers)
    macs := some (c.macs.getD supportedMACs) }

/-- The configuration of `initServerConfig`. -/
def serverConfig : Config := Config.setDefaults ⟨0, none, none, none⟩

structure KexInit where
  cookie : { b : Bytes // b.length = 16 }
  kexAlgos : List Bytes
  serverHostKeyAlgos : List Bytes
  ciphersClientServer : List Bytes
  ciphersServerClient : List Bytes
  macsClientServer : List Bytes
  macsServerClient : List Bytes
  compressionClientServer : List Bytes
  compressionServerClient : List Bytes
  languagesClientServer : List Bytes
  languagesServerClient : List Bytes
  firstKexFollows : Bool
  reserved : UInt32

def KexInit.ofRecord : Record kexInitMsg.kinds → KexInit
  | (cookie, kex, hostKey, cipherCS, cipherSC, macCS, macSC, compCS, compSC, langCS, langSC,
      follows, reserved, ()) =>
    ⟨cookie, kex, hostKey, cipherCS, cipherSC, macCS, macSC, compCS, compSC, langCS, langSC,
      follows, reserved⟩

def KexInit.record (m : KexInit) : Record kexInitMsg.kinds :=
  (m.cookie, m.kexAlgos, m.serverHostKeyAlgos, m.ciphersClientServer, m.ciphersServerClient,
    m.macsClientServer, m.macsServerClient, m.compressionClientServer, m.compressionServerClient,
    m.languagesClientServer, m.languagesServerClient, m.firstKexFollows, m.reserved, ())

/-- What a server with keys of these types sends, whatever comes of the random reader. -/
def ownKexInit (config : Config) (hostKeys : List Bytes) (cookie : { b : Bytes // b.length = 16 }) :
    KexInit where
  cookie := cookie
  kexAlgos := config.keyExchanges.getD []
  serverHostKeyAlgos := hostKeys
  ciphersClientServer := config.ciphers.getD []
  ciphersServerClient := config.ciphers.getD []
  macsClientServer := config.macs.getD []
  macsServerClient := config.macs.getD []
  compressionClientServer := supportedCompressions
  compressionServerClient := supportedCompressions
  languagesClientServer := []
  languagesServerClient := []
  firstKexFollows := false
  reserved := 0

/-! ## The choice -/

def findCommonAlgorithm (clientAlgos serverAlgos : List Bytes) : Option Bytes :=
  clientAlgos.find? fun clientAlgo => serverAlgos.any fun serverAlgo => clientAlgo = serverAlgo

def findCommonCipher (clientCiphers serverCiphers : List Bytes) : Option Bytes :=
  clientCiphers.find? fun clientCipher => serverCiphers.any fun serverCipher =>
    clientCipher = serverCipher ∧ (cipherModes.lookup clientCipher).isSome

structure DirectionAlgorithms where
  cipher : Bytes
  mac : Bytes
  compression : Bytes
  deriving DecidableEq, Repr

structure Algorithms where
  kex : Bytes
  hostKey : Bytes
  w : DirectionAlgorithms
  r : DirectionAlgorithms
  deriving DecidableEq, Repr

def findAgreedAlgorithms (clientKexInit serverKexInit : KexInit) : Option Algorithms := do
  let kex ← findCommonAlgorithm clientKexInit.kexAlgos serverKexInit.kexAlgos
  let hostKey ←
    findCommonAlgorithm clientKexInit.serverHostKeyAlgos serverKexInit.serverHostKeyAlgos
  let wCipher ←
    findCommonCipher clientKexInit.ciphersClientServer serverKexInit.ciphersClientServer
  let rCipher ←
    findCommonCipher clientKexInit.ciphersServerClient serverKexInit.ciphersServerClient
  let wMac ← findCommonAlgorithm clientKexInit.macsClientServer serverKexInit.macsClientServer
  let rMac ← findCommonAlgorithm clientKexInit.macsServerClient serverKexInit.macsServerClient
  let wCompression ← findCommonAlgorithm clientKexInit.compressionClientServer
    serverKexInit.compressionClientServer
  let rCompression ← findCommonAlgorithm clientKexInit.compressionServerClient
    serverKexInit.compressionServerClient
  return ⟨kex, hostKey, ⟨wCipher, wMac, wCompression⟩, ⟨rCipher, rMac, rCompression⟩⟩

/-- The first of the names in `client` that `server` has too. -/
def IsFirstCommon (client server : List Bytes) (name : Bytes) : Prop :=
  ∃ before after, client = before ++ name :: after ∧ name ∈ server ∧
    ∀ other ∈ before, other ∉ server

section Choice

variable {client server : List Bytes} {name name' : Bytes}

theorem IsFirstCommon.unique (h : IsFirstCommon client server name)
    (h' : IsFirstCommon client server name') : name = name' := by
  obtain ⟨before, after, rfl, hname, hbefore⟩ := h
  obtain ⟨before', after', hsame, hname', hbefore'⟩ := h'
  induction before generalizing before' with
  | nil =>
      cases before' with
      | nil => exact (List.cons.inj hsame).1
      | cons first before' =>
          have hfirst := (List.cons.inj hsame).1
          exact absurd (hfirst ▸ hname) (hbefore' first List.mem_cons_self)
  | cons first before ih =>
      cases before' with
      | nil =>
          have hfirst := (List.cons.inj hsame).1
          exact absurd (hfirst ▸ hname') (hbefore first List.mem_cons_self)
      | cons first' before' =>
          exact ih (fun other hother => hbefore other (List.mem_cons_of_mem _ hother)) before'
            (List.cons.inj hsame).2
            (fun other hother => hbefore' other (List.mem_cons_of_mem _ hother))

theorem findCommonAlgorithm_eq_some_iff :
    findCommonAlgorithm client server = some name ↔ IsFirstCommon client server name := by
  rw [findCommonAlgorithm, List.find?_eq_some_iff_append, IsFirstCommon]
  constructor
  · rintro ⟨hname, before, after, rfl, hbefore⟩
    refine ⟨before, after, rfl, by simpa using hname, fun other hother hmem => ?_⟩
    have hnot := hbefore other hother
    simp only [Bool.not_eq_true', List.any_eq_false, decide_eq_true_eq] at hnot
    exact hnot other hmem rfl
  · rintro ⟨before, after, rfl, hname, hbefore⟩
    refine ⟨by simpa using hname, before, after, rfl, fun other hother => ?_⟩
    have hnot := hbefore other hother
    simp only [Bool.not_eq_true', List.any_eq_false, decide_eq_true_eq]
    rintro known hknown rfl
    exact hnot hknown

/-- Where the server has only ciphers with a mode, the mode makes no difference. -/
theorem findCommonCipher_eq (h : ∀ name ∈ server, (cipherModes.lookup name).isSome) :
    findCommonCipher client server = findCommonAlgorithm client server := by
  rw [findCommonCipher, findCommonAlgorithm]
  congr 1
  funext clientCipher
  rw [Bool.eq_iff_iff, List.any_eq_true, List.any_eq_true]
  refine exists_congr fun serverCipher => and_congr_right fun hmem => ?_
  simp only [decide_eq_true_eq]
  constructor
  · exact And.left
  · rintro rfl
    exact ⟨rfl, h _ hmem⟩

theorem cipherModes_of_supported : ∀ name ∈ supportedCiphers, (cipherModes.lookup name).isSome := by
  decide

end Choice

section Agreement

variable {client own : KexInit} {algs : Algorithms}

/-- The eight choices. -/
structure Agrees (client own : KexInit) (algs : Algorithms) : Prop where
  kex : findCommonAlgorithm client.kexAlgos own.kexAlgos = some algs.kex
  hostKey : findCommonAlgorithm client.serverHostKeyAlgos own.serverHostKeyAlgos =
    some algs.hostKey
  wCipher : findCommonCipher client.ciphersClientServer own.ciphersClientServer =
    some algs.w.cipher
  rCipher : findCommonCipher client.ciphersServerClient own.ciphersServerClient =
    some algs.r.cipher
  wMac : findCommonAlgorithm client.macsClientServer own.macsClientServer = some algs.w.mac
  rMac : findCommonAlgorithm client.macsServerClient own.macsServerClient = some algs.r.mac
  wCompression : findCommonAlgorithm client.compressionClientServer own.compressionClientServer =
    some algs.w.compression
  rCompression : findCommonAlgorithm client.compressionServerClient own.compressionServerClient =
    some algs.r.compression

theorem findAgreedAlgorithms_eq_some_iff :
    findAgreedAlgorithms client own = some algs ↔ Agrees client own algs := by
  simp only [findAgreedAlgorithms, Option.bind_eq_bind, Option.bind_eq_some_iff]
  constructor
  · rintro ⟨kex, hkex, hostKey, hhostKey, wCipher, hwCipher, rCipher, hrCipher, wMac, hwMac, rMac,
      hrMac, wCompression, hwCompression, rCompression, hrCompression, h⟩
    cases h
    exact ⟨hkex, hhostKey, hwCipher, hrCipher, hwMac, hrMac, hwCompression, hrCompression⟩
  · intro h
    exact ⟨_, h.kex, _, h.hostKey, _, h.wCipher, _, h.rCipher, _, h.wMac, _, h.rMac, _,
      h.wCompression, _, h.rCompression, rfl⟩

end Agreement

def zeroCookie : { b : Bytes // b.length = 16 } := ⟨List.replicate 16 0, rfl⟩

/-- A client that would send with AES of 128 bits and receive with AES of 256 bits. -/
def mixedClient : KexInit where
  cookie := zeroCookie
  kexAlgos := [ascii "ecdh-sha2-nistp256"]
  serverHostKeyAlgos := [ascii "ssh-rsa"]
  ciphersClientServer := [ascii "aes128-ctr"]
  ciphersServerClient := [ascii "aes256-ctr"]
  macsClientServer := [ascii "hmac-sha1"]
  macsServerClient := [ascii "hmac-sha1"]
  compressionClientServer := [ascii "none"]
  compressionServerClient := [ascii "none"]
  languagesClientServer := []
  languagesServerClient := []
  firstKexFollows := false
  reserved := 0

end DockerBastion.Ssh
