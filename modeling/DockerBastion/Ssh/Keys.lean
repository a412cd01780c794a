import DockerBastion.Ssh.Negotiate
import DockerBastion.Ssh.Transport

/-!
# Keys

The keys of both directions are cut from streams of digests.  The primitives of the
standard library are parameters.  The server takes for each direction the algorithms
that were chosen for the other one, so that it can read a client only if the choices
come to the same.
-/

namespace DockerBastion.Ssh

open Foundation Sshd

/-! ## Key material -/

/-- A `crypto.Hash`. -/
structure Hash where
  size : Nat
  size_pos : 0 < size
  sum : Bytes → Bytes
  length_sum : ∀ b, (sum b).length = size

def constantHash : Hash := ⟨1, Nat.one_pos, fun _ => [0], fun _ => rfl⟩

structure KexResult where
  h : Bytes
  k : Bytes
  hash : Hash
  sessionID : Bytes

/-- The digest of one round of the loop. -/
def KexResult.digest (r : KexResult) (tag digestsSoFar : Bytes) : Bytes :=
  r.hash.sum (r.k ++ (r.h ++
    if digestsSoFar.length = 0 then tag ++ r.sessionID else digestsSoFar))

theorem KexResult.length_digest (r : KexResult) (tag digestsSoFar : Bytes) :
    (r.digest tag digestsSoFar).length = r.hash.size :=
  r.hash.length_sum _

/-- The loop of `generateKeyMaterial`, with `n` bytes of `out` left. -/
def materialLoop (r : KexResult) (tag digestsSoFar : Bytes) (n : Nat) : Bytes :=
  if n = 0 then []
  else
    let out := (r.digest tag digestsSoFar).take n
    out ++
      materialLoop r tag
        (if n - out.length > 0 then digestsSoFar ++ r.digest tag digestsSoFar else digestsSoFar)
        (n - out.length)
termination_by n
decreasing_by
  have hsize := r.hash.size_pos
  rw [List.length_take, r.length_digest]
  omega

def generateKeyMaterial (r : KexResult) (tag : Bytes) (n : Nat) : Bytes := materialLoop r tag [] n

/-- The first `i` digests, each of them over all before it. -/
def digests (r : KexResult) (tag : Bytes) : Nat → Bytes
  | 0 => []
  | i + 1 => digests r tag i ++ r.digest tag (digests r tag i)

section Material

variable (r : KexResult) (tag : Bytes)

theorem length_digests (i : Nat) : (digests r tag i).length = i * r.hash.size := by
  induction i with
  | zero => simp [digests]
  | succ i ih => rw [digests, List.length_append, ih, r.length_digest, Nat.succ_mul]

theorem digests_prefix {i j : Nat} (h : i ≤ j) : digests r tag i <+: digests r tag j := by
  induction j, h using Nat.le_induction with
  | base => exact List.prefix_rfl
  | succ j _ ih => exact ih.trans (List.prefix_append _ _)

theorem materialLoop_zero (digestsSoFar : Bytes) : materialLoop r tag digestsSoFar 0 = [] := by
  rw [materialLoop, if_pos rfl]

/-- Behind `i` rounds the loop goes on with the stream of digests. -/
theorem materialLoop_eq {i j n : Nat} (h : i * r.hash.size + n ≤ j * r.hash.size) :
    materialLoop r tag (digests r tag i) n =
      ((digests r tag j).drop (i * r.hash.size)).take n := by
  induction n using Nat.strong_induction_on generalizing i with
  | _ n ih =>
      have hsize := r.hash.size_pos
      unfold materialLoop
      split
      · rename_i hzero
        rw [hzero, List.take_zero]
      · rename_i hpos
        have hlength := r.length_digest tag (digests r tag i)
        have hnext : digests r tag i ++ r.digest tag (digests r tag i) = digests r tag (i + 1) :=
          rfl
        -- the next digest is the next part of the stream
        have hij : i + 1 ≤ j := by
          have hlt : i * r.hash.size < j * r.hash.size := by omega
          exact Nat.lt_of_mul_lt_mul_right hlt
        obtain ⟨later, hlater⟩ := digests_prefix r tag hij
        have hdrop : (digests r tag j).drop (i * r.hash.size) =
            r.digest tag (digests r tag i) ++ later := by
          rw [← hlater, ← hnext, List.append_assoc]
          exact List.drop_left' (length_digests r tag i)
        rw [hdrop]
        dsimp only
        by_cases hlast : n ≤ r.hash.size
        · have htake : ((r.digest tag (digests r tag i)).take n).length = n := by
            rw [List.length_take]
            omega
          rw [htake, Nat.sub_self, materialLoop_zero, List.append_nil,
            List.take_append_of_le_length (by omega)]
        · have htake : (r.digest tag (digests r tag i)).take n =
              r.digest tag (digests r tag i) := List.take_of_length_le (by omega)
          have hmore : n - r.hash.size > 0 := by omega
          have hrest : (digests r tag j).drop ((i + 1) * r.hash.size) = later := by
            rw [← hlater]
            exact List.drop_left' (length_digests r tag (i + 1))
          have hmoved : (i + 1) * r.hash.size + (n - r.hash.size) ≤ j * r.hash.size := by
            rw [Nat.succ_mul]
            omega
          have hlater := ih (n - r.hash.size) (by omega) hmoved
          rw [htake, hlength, if_pos hmore, hnext, hlater, hrest, List.take_append, hlength, htake]

@[simp] theorem length_generateKeyMaterial (n : Nat) :
    (generateKeyMaterial r tag n).length = n := by
  have hle : 0 * r.hash.size + n ≤ n * r.hash.size := by
    rw [Nat.zero_mul, Nat.zero_add]
    exact Nat.le_mul_of_pos_right n r.hash.size_pos
  have hloop := congrArg List.length (materialLoop_eq r tag hle)
  rw [Nat.zero_mul, List.drop_zero, List.length_take, length_digests, Nat.min_eq_left (by omega)]
    at hloop
  exact hloop

/--
Key material of any length is cut from one stream of digests, each over the secret, the
hash and all digests before it, the first one over the tag and the session.
-/
theorem generateKeyMaterial_eq {i n : Nat} (h : n ≤ i * r.hash.size) :
    generateKeyMaterial r tag n = (digests r tag i).take n := by
  have hloop := materialLoop_eq r tag (by omega : 0 * r.hash.size + n ≤ i * r.hash.size)
  rw [Nat.zero_mul, List.drop_zero] at hloop
  exact hloop

def summingHash : Hash :=
  ⟨2, by decide, fun b => [UInt8.ofNat b.length, b.foldl (· + ·) 0], fun _ => rfl⟩

theorem threeRounds_eq :
    generateKeyMaterial ⟨[1, 2], [3], summingHash, [4]⟩ [65] 5 = [5, 75, 5, 86, 7] :=
  generateKeyMaterial_eq ⟨[1, 2], [3], summingHash, [4]⟩ [65] (i := 3) (by decide)

end Material

/-! ## The ciphers -/

/-- The ciphers and codes of the standard library. -/
structure Primitives where
  aesCTR : Bytes → Bytes → Nat → UInt8
  rc4 : Bytes → Nat → UInt8
  aesGCM : Bytes → Aead
  hmacSHA1 : Bytes → Bytes → Bytes
  length_hmacSHA1 : ∀ key b, (hmacSHA1 key b).length = 20

def MacMode.new (P : Primitives) (m : MacMode) (key : Bytes) : Mac where
  size := m.size
  sum b := (P.hmacSHA1 key b).take m.size
  length_sum b := by
    rw [List.length_take, P.length_hmacSHA1, Nat.min_eq_left m.size_le]

def CreateFunc.create (P : Primitives) (key iv : Bytes) : CreateFunc → Option (Nat → UInt8)
  | .newAESCTR => some (P.aesCTR key iv)
  | .newRC4 => some (P.rc4 key)
  | .nil => none

structure Direction where
  ivTag : Bytes
  keyTag : Bytes
  macKeyTag : Bytes

def serverKeys : Direction := ⟨ascii "B", ascii "D", ascii "F"⟩

def clientKeys : Direction := ⟨ascii "A", ascii "C", ascii "E"⟩

/-- There is none where a name has no mode, which is a nil pointer in the code. -/
def newPacketCipher (P : Primitives) (d : Direction) (algs : DirectionAlgorithms)
    (kex : KexResult) : Option PacketCipher := do
  let cipherMode ← cipherModes.lookup algs.cipher
  let macMode ← macModes.lookup algs.mac
  let iv := generateKeyMaterial kex d.ivTag cipherMode.ivSize
  let key := generateKeyMaterial kex d.keyTag cipherMode.keySize
  let macKey := generateKeyMaterial kex d.macKeyTag macMode.keySize
  if algs.cipher = gcmCipherID then return .gcm (P.aesGCM key) iv
  else
    let cipher ← cipherMode.createFunc.create P key iv
    return .stream cipher cipherMode.skip (some (macMode.new P macKey))

structure Transport where
  reader : ConnectionState
  readerDir : Direction
  writer : ConnectionState
  writerDir : Direction
  sessionID : Option Bytes

def newTransport (isClient : Bool) : Transport :=
  if isClient then ⟨.start, serverKeys, .start, clientKeys, none⟩
  else ⟨.start, clientKeys, .start, serverKeys, none⟩

/-- There is no result where it panics or waits. -/
def prepareKeyChange (P : Primitives) (t : Transport) (algs : Algorithms) (kexResult : KexResult) :
    Option Transport := do
  let sessionID := t.sessionID.getD kexResult.h
  let kexResult := { kexResult with sessionID := sessionID }
  let reader ← t.reader.prepare (← newPacketCipher P t.readerDir algs.r kexResult)
  let writer ← t.writer.prepare (← newPacketCipher P t.writerDir algs.w kexResult)
  return { t with reader := reader, writer := writer, sessionID := some sessionID }

section Usable

variable {P : Primitives} {d : Direction} {algs : DirectionAlgorithms} {kex : KexResult}

/-- Every cipher that is offered has a mode, and a function to create it unless it is AES-GCM. -/
theorem supported_modes :
    ∀ name ∈ supportedCiphers, ∃ mode, cipherModes.lookup name = some mode ∧
      (name = gcmCipherID ↔ mode.createFunc = .nil) := by
  simp only [supportedCiphers, List.forall_mem_cons]
  refine ⟨⟨_, rfl, ?_⟩, ⟨_, rfl, ?_⟩, ⟨_, rfl, ?_⟩, ⟨_, rfl, ?_⟩, ⟨_, rfl, ?_⟩, ⟨_, rfl, ?_⟩, ?_⟩
  all_goals decide

theorem supported_macs : ∀ name ∈ supportedMACs, ∃ mode, macModes.lookup name = some mode := by
  intro name hname
  have hall : ∀ name ∈ supportedMACs, (macModes.lookup name).isSome := by decide
  exact Option.isSome_iff_exists.mp (hall name hname)

theorem newPacketCipher_isSome (hcipher : algs.cipher ∈ supportedCiphers)
    (hmac : algs.mac ∈ supportedMACs) : (newPacketCipher P d algs kex).isSome := by
  obtain ⟨mode, hmode, hgcm⟩ := supported_modes algs.cipher hcipher
  obtain ⟨macMode, hmacMode⟩ := supported_macs algs.mac hmac
  rw [newPacketCipher, hmode, hmacMode]
  simp only [Option.bind_eq_bind, Option.bind_some]
  split
  · rfl
  · rename_i hname
    cases hfunc : mode.createFunc with
    | newAESCTR => rfl
    | newRC4 => rfl
    | nil => exact absurd (hgcm.mpr hfunc) hname

theorem prepareKeyChange_eq {t : Transport} {algs : Algorithms} {reader writer : PacketCipher}
    {sessionID : Bytes} (hsession : t.sessionID.getD kex.h = sessionID)
    (hfree : t.reader.pendingKeyChange = none ∧ t.writer.pendingKeyChange = none)
    (hreader : newPacketCipher P t.readerDir algs.r { kex with sessionID := sessionID } =
      some reader)
    (hwriter : newPacketCipher P t.writerDir algs.w { kex with sessionID := sessionID } =
      some writer) :
    prepareKeyChange P t algs kex =
      some { t with
        reader := { t.reader with pendingKeyChange := some reader }
        writer := { t.writer with pendingKeyChange := some writer }
        sessionID := some sessionID } := by
  rw [prepareKeyChange, hsession]
  simp only [hreader, hwriter, Option.bind_eq_bind, Option.bind_some,
    prepare_eq_some_iff.mpr ⟨hfree.1, rfl⟩, prepare_eq_some_iff.mpr ⟨hfree.2, rfl⟩]
  rfl

end Usable

section Server

variable {client : KexInit} {hostKeys : List Bytes} {cookie : { b : Bytes // b.length = 16 }}
  {algs : Algorithms}

theorem IsFirstCommon.mem {client server : List Bytes} {name : Bytes}
    (h : IsFirstCommon client server name) : name ∈ server := by
  obtain ⟨before, after, -, hname, -⟩ := h
  exact hname

/-- The choices with the server, all of them among what it supports. -/
structure Chosen (client : KexInit) (hostKeys : List Bytes) (algs : Algorithms) : Prop where
  kex : IsFirstCommon client.kexAlgos supportedKexAlgos algs.kex
  hostKey : IsFirstCommon client.serverHostKeyAlgos hostKeys algs.hostKey
  wCipher : IsFirstCommon client.ciphersClientServer supportedCiphers algs.w.cipher
  rCipher : IsFirstCommon client.ciphersServerClient supportedCiphers algs.r.cipher
  wMac : IsFirstCommon client.macsClientServer supportedMACs algs.w.mac
  rMac : IsFirstCommon client.macsServerClient supportedMACs algs.r.mac

theorem chosen_of_agreed
    (h : findAgreedAlgorithms client (ownKexInit serverConfig hostKeys cookie) = some algs) :
    Chosen client hostKeys algs := by
  have hagrees := findAgreedAlgorithms_eq_some_iff.mp h
  have hwCipher : findCommonCipher client.ciphersClientServer supportedCiphers =
      some algs.w.cipher := hagrees.wCipher
  have hrCipher : findCommonCipher client.ciphersServerClient supportedCiphers =
      some algs.r.cipher := hagrees.rCipher
  rw [findCommonCipher_eq cipherModes_of_supported] at hwCipher hrCipher
  exact ⟨findCommonAlgorithm_eq_some_iff.mp hagrees.kex,
    findCommonAlgorithm_eq_some_iff.mp hagrees.hostKey,
    findCommonAlgorithm_eq_some_iff.mp hwCipher, findCommonAlgorithm_eq_some_iff.mp hrCipher,
    findCommonAlgorithm_eq_some_iff.mp hagrees.wMac,
    findCommonAlgorithm_eq_some_iff.mp hagrees.rMac⟩

/--
What the server has agreed on with any client it can carry out: the key exchange and a
host key exist, and the ciphers of both directions are made, without a panic.
-/
theorem agreed_usable
    (h : findAgreedAlgorithms client (ownKexInit serverConfig hostKeys cookie) = some algs)
    (P : Primitives) (t : Transport) (kex : KexResult) :
    algs.kex ∈ kexAlgoNames ∧ algs.hostKey ∈ hostKeys ∧
      ((prepareKeyChange P t algs kex).isSome ↔
        t.reader.pendingKeyChange = none ∧ t.writer.pendingKeyChange = none) := by
  have hchosen := chosen_of_agreed h
  have hkexAlgos : ∀ name ∈ supportedKexAlgos, name ∈ kexAlgoNames := by decide
  refine ⟨hkexAlgos algs.kex hchosen.kex.mem, hchosen.hostKey.mem, ?_⟩
  constructor
  · intro hprepared
    obtain ⟨t', hprepared⟩ := Option.isSome_iff_exists.mp hprepared
    simp only [prepareKeyChange, Option.bind_eq_bind, Option.bind_eq_some_iff] at hprepared
    obtain ⟨_, -, reader, hreader, _, -, writer, hwriter, -⟩ := hprepared
    exact ⟨(prepare_eq_some_iff.mp hreader).1, (prepare_eq_some_iff.mp hwriter).1⟩
  · intro hfree
    have hreader : (newPacketCipher P t.readerDir algs.r
        { kex with sessionID := t.sessionID.getD kex.h }).isSome :=
      newPacketCipher_isSome hchosen.rCipher.mem hchosen.rMac.mem
    have hwriter : (newPacketCipher P t.writerDir algs.w
        { kex with sessionID := t.sessionID.getD kex.h }).isSome :=
      newPacketCipher_isSome hchosen.wCipher.mem hchosen.wMac.mem
    obtain ⟨reader, hreader⟩ := Option.isSome_iff_exists.mp hreader
    obtain ⟨writer, hwriter⟩ := Option.isSome_iff_exists.mp hwriter
    rw [prepareKeyChange_eq rfl hfree hreader hwriter]
    rfl

/-- Key streams and codes that tell the algorithms apart, if no more. -/
def telling : Primitives where
  aesCTR key _ _ := UInt8.ofNat key.length
  rc4 key _ := UInt8.ofNat (key.length + 1)
  aesGCM _ := zeroTagged
  hmacSHA1 _ _ := List.replicate 20 0
  length_hmacSHA1 _ _ := List.length_replicate

def mixedAlgorithms : Algorithms :=
  ⟨ascii "ecdh-sha2-nistp256", ascii "ssh-rsa",
    ⟨ascii "aes128-ctr", ascii "hmac-sha1", ascii "none"⟩,
    ⟨ascii "aes256-ctr", ascii "hmac-sha1", ascii "none"⟩⟩

theorem mixedClient_agreed :
    findAgreedAlgorithms mixedClient
      (ownKexInit serverConfig [ascii "ssh-rsa"] zeroCookie) =
        some mixedAlgorithms := by
  decide

theorem mixedClient_usable :
    (prepareKeyChange telling (newTransport false) mixedAlgorithms
      ⟨[], [], constantHash, []⟩).isSome :=
  (agreed_usable mixedClient_agreed telling (newTransport false)
    ⟨[], [], constantHash, []⟩).2.2.mpr ⟨rfl, rfl⟩

/-- What the lists of both sides prescribe for the two directions. -/
structure Prescribed (client : KexInit) (toServer toClient : DirectionAlgorithms) : Prop where
  serverCipher : IsFirstCommon client.ciphersClientServer supportedCiphers toServer.cipher
  serverMac : IsFirstCommon client.macsClientServer supportedMACs toServer.mac
  clientCipher : IsFirstCommon client.ciphersServerClient supportedCiphers toClient.cipher
  clientMac : IsFirstCommon client.macsServerClient supportedMACs toClient.mac

/-- The first byte of the key stream, and the length of the code. -/
def PacketCipher.signature : PacketCipher → UInt8 × Nat
  | .stream keystream _ mac => (keystream 0, Mac.size? mac)
  | .gcm _ _ => (0, 0)

def signatureOf (algs : DirectionAlgorithms) : Option (UInt8 × Nat) := do
  let cipherMode ← cipherModes.lookup algs.cipher
  let macMode ← macModes.lookup algs.mac
  match cipherMode.createFunc with
  | .newAESCTR => some (UInt8.ofNat cipherMode.keySize, macMode.size)
  | .newRC4 => some (UInt8.ofNat (cipherMode.keySize + 1), macMode.size)
  | .nil => some (0, 0)

theorem signature_newPacketCipher {d : Direction} {kex : KexResult} {cipher mac comp : Bytes}
    (hcipher : cipher ∈ supportedCiphers) (hmac : mac ∈ supportedMACs) :
    (newPacketCipher telling d ⟨cipher, mac, comp⟩ kex).map PacketCipher.signature =
      signatureOf ⟨cipher, mac, []⟩ := by
  obtain ⟨mode, hmode, hgcm⟩ := supported_modes cipher hcipher
  obtain ⟨macMode, hmacMode⟩ := supported_macs mac hmac
  rw [newPacketCipher, signatureOf, hmode, hmacMode]
  simp only [Option.bind_eq_bind, Option.bind_some]
  cases hfunc : mode.createFunc with
  | newAESCTR =>
      rw [if_neg (fun hname => by simp [hgcm.mp hname] at hfunc)]
      simp [CreateFunc.create, PacketCipher.signature, telling, MacMode.new, Mac.size?]
  | newRC4 =>
      rw [if_neg (fun hname => by simp [hgcm.mp hname] at hfunc)]
      simp [CreateFunc.create, PacketCipher.signature, telling, MacMode.new, Mac.size?]
  | nil =>
      rw [if_pos (hgcm.mpr hfunc)]
      rfl

theorem signatureOf_injective :
    ∀ cipher ∈ supportedCiphers, ∀ mac ∈ supportedMACs, ∀ cipher' ∈ supportedCiphers,
      ∀ mac' ∈ supportedMACs, signatureOf ⟨cipher, mac, []⟩ = signatureOf ⟨cipher', mac', []⟩ →
        cipher = cipher' ∧ (mac = mac' ∨ cipher = gcmCipherID) := by
  decide

/-- The code does not matter to AES-GCM, and the compression to no cipher. -/
theorem newPacketCipher_congr {P : Primitives} {d : Direction} {kex : KexResult}
    {a b : DirectionAlgorithms} (hcipher : a.cipher = b.cipher)
    (hmac : a.mac = b.mac ∨ a.cipher = gcmCipherID) (ha : a.mac ∈ supportedMACs)
    (hb : b.mac ∈ supportedMACs) : newPacketCipher P d a kex = newPacketCipher P d b kex := by
  rcases hmac with hmac | hgcm
  · rw [newPacketCipher, newPacketCipher, hcipher, hmac]
  · obtain ⟨mode, hmode⟩ := supported_macs a.mac ha
    obtain ⟨mode', hmode'⟩ := supported_macs b.mac hb
    rw [newPacketCipher, newPacketCipher, hmode, hmode', ← hcipher]
    simp only [if_pos hgcm]
    rfl

/--
The server gets the ciphers that both lists prescribe, for every secret and whatever the
primitives are, if and only if the lists prescribe the same for both directions: the
same cipher, and the same code unless the cipher needs none.
-/
theorem prescribed_ciphers_iff {toServer toClient : DirectionAlgorithms}
    (h : findAgreedAlgorithms client (ownKexInit serverConfig hostKeys cookie) = some algs)
    (hprescribed : Prescribed client toServer toClient) :
    (∀ P kex t, prepareKeyChange P (newTransport false) algs kex = some t →
        t.reader.pendingKeyChange =
            newPacketCipher P clientKeys toServer { kex with sessionID := kex.h } ∧
          t.writer.pendingKeyChange =
            newPacketCipher P serverKeys toClient { kex with sessionID := kex.h }) ↔
      toServer.cipher = toClient.cipher ∧
        (toServer.mac = toClient.mac ∨ toServer.cipher = gcmCipherID) := by
  have hchosen := chosen_of_agreed h
  have hsupported : ∀ P kex, ∃ reader writer,
      newPacketCipher P clientKeys algs.r kex = some reader ∧
      newPacketCipher P serverKeys algs.w kex = some writer := by
    intro P kex
    have hreader : (newPacketCipher P clientKeys algs.r kex).isSome :=
      newPacketCipher_isSome hchosen.rCipher.mem hchosen.rMac.mem
    have hwriter : (newPacketCipher P serverKeys algs.w kex).isSome :=
      newPacketCipher_isSome hchosen.wCipher.mem hchosen.wMac.mem
    obtain ⟨reader, hreader⟩ := Option.isSome_iff_exists.mp hreader
    obtain ⟨writer, hwriter⟩ := Option.isSome_iff_exists.mp hwriter
    exact ⟨reader, writer, hreader, hwriter⟩
  have hprepared : ∀ P kex reader writer,
      newPacketCipher P clientKeys algs.r { kex with sessionID := kex.h } = some reader →
      newPacketCipher P serverKeys algs.w { kex with sessionID := kex.h } = some writer →
      prepareKeyChange P (newTransport false) algs kex = some
        ⟨⟨.initial, 0, some reader⟩, clientKeys, ⟨.initial, 0, some writer⟩, serverKeys,
          some kex.h⟩ := by
    intro P kex reader writer hreader hwriter
    have hsession : (newTransport false).sessionID.getD kex.h = kex.h := rfl
    exact prepareKeyChange_eq hsession ⟨rfl, rfl⟩ hreader hwriter
  -- what was chosen for the client's packets is what the lists prescribe for them
  have hwCipher := hchosen.wCipher.unique hprescribed.serverCipher
  have hwMac := hchosen.wMac.unique hprescribed.serverMac
  have hrCipher := hchosen.rCipher.unique hprescribed.clientCipher
  have hrMac := hchosen.rMac.unique hprescribed.clientMac
  constructor
  · intro hall
    let kex : KexResult := ⟨[], [], constantHash, []⟩
    obtain ⟨reader, writer, hreader, hwriter⟩ := hsupported telling kex
    have hsame := (hall telling kex _ (hprepared telling kex reader writer hreader hwriter)).1
    have hsignature : signatureOf ⟨toServer.cipher, toServer.mac, []⟩ =
        signatureOf ⟨algs.r.cipher, algs.r.mac, []⟩ := by
      rw [← signature_newPacketCipher (d := clientKeys) hprescribed.serverCipher.mem
          hprescribed.serverMac.mem,
        ← signature_newPacketCipher (d := clientKeys) hchosen.rCipher.mem hchosen.rMac.mem]
      exact congrArg _ (hsame.symm.trans hreader.symm)
    rw [hrCipher, hrMac] at hsignature
    exact signatureOf_injective _ hprescribed.serverCipher.mem _ hprescribed.serverMac.mem _
      hprescribed.clientCipher.mem _ hprescribed.clientMac.mem hsignature
  · rintro ⟨hcipher, hmac⟩ P kex t ht
    obtain ⟨reader, writer, hreader, hwriter⟩ := hsupported P { kex with sessionID := kex.h }
    rw [hprepared P kex reader writer hreader hwriter] at ht
    cases ht
    refine ⟨?_, ?_⟩
    · rw [← hreader]
      refine newPacketCipher_congr (hrCipher.trans hcipher.symm) ?_ hchosen.rMac.mem
        hprescribed.serverMac.mem
      rcases hmac with hmac | hgcm
      · exact .inl (hrMac.trans hmac.symm)
      · exact .inr (hrCipher.trans (hcipher.symm.trans hgcm))
    · rw [← hwriter]
      refine newPacketCipher_congr (hwCipher.trans hcipher) ?_ hchosen.wMac.mem
        hprescribed.clientMac.mem
      rcases hmac with hmac | hgcm
      · exact .inl (hwMac.trans hmac)
      · exact .inr (hwCipher.trans hgcm)

theorem mixedClient_not_followed :
    ¬ ∀ P kex t, prepareKeyChange P (newTransport false) mixedAlgorithms kex = some t →
      t.reader.pendingKeyChange =
          newPacketCipher P clientKeys mixedAlgorithms.w { kex with sessionID := kex.h } ∧
        t.writer.pendingKeyChange =
          newPacketCipher P serverKeys mixedAlgorithms.r { kex with sessionID := kex.h } := by
  intro hall
  have hprescribed : Prescribed mixedClient mixedAlgorithms.w mixedAlgorithms.r :=
    ⟨⟨[], [], rfl, by decide, by decide⟩, ⟨[], [], rfl, by decide, by decide⟩,
      ⟨[], [], rfl, by decide, by decide⟩, ⟨[], [], rfl, by decide, by decide⟩⟩
  have hsame := ((prescribed_ciphers_iff mixedClient_agreed hprescribed).mp hall).1
  exact absurd hsame (by decide)

end Server

end DockerBastion.Ssh
