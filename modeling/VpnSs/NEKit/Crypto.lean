/-
The stream ciphers of Shadowsocks: what CommonCrypto and libsodium provide, the key derived from a
password, `SodiumStreamCrypto`, which starts libsodium at a block boundary and pads up to its position,
and the cipher object for an algorithm. Every cipher works byte by byte whatever pieces it is given, and
decryption undoes encryption under the same key and initial vector.
-/
import VpnSs.Lib.Stream
import VpnSs.NEKit.Rule
import VpnSs.Swift.Data

namespace VpnSs.NEKit

open VpnSs.Swift VpnSs.Stream

/-! ## The libraries -/

inductive CryptoOperation where
  | encrypt
  | decrypt
  deriving DecidableEq, Repr

/-- `CCCrypto.Mode` -/
inductive CCMode where
  | cfb
  | rc4
  deriving DecidableEq, Repr

/-- `CCCrypto.Algorithm` -/
inductive CCAlgorithm where
  | aes
  | cast
  | rc4
  deriving DecidableEq, Repr

/-- The keys an algorithm of CommonCrypto takes, and the initial vectors of the length it reads. With a key
of another length there is no cryptor, and `CCCrypto.init` traps. -/
def CCAlgorithm.Takes : CCAlgorithm → Option Data → Data → Prop
  | .aes, iv, key => (key.length = 16 ∨ key.length = 24 ∨ key.length = 32) ∧ ∀ v ∈ iv, v.length = 16
  | .cast, iv, key => (5 ≤ key.length ∧ key.length ≤ 16) ∧ ∀ v ∈ iv, v.length = 8
  | .rc4, _, key => 1 ≤ key.length ∧ key.length ≤ 512

/-- A `crypto_stream_*_xor_ic(m, n, ic, k)` combines the data with the keystream of the key and the nonce
from block `ic` on, where a block has 64 bytes. -/
def CombinesFrom (keystream : Data → Data → Nat → UInt8) (xorIc : Data → Data → Nat → Data → Data) : Prop :=
  ∀ m n ic k, xorIc m n ic k = m.mapIdx fun i b => b ^^^ keystream k n (64 * ic + i)

/-- CommonCrypto and libsodium. A cryptor without padding in a stream mode gives as much as it is given
and may be given it in parts, and one that decrypts undoes one that encrypts from the same start, with a
key and an initial vector the algorithm takes. The ciphers of libsodium have keystreams, whose keys have 32
bytes and whose nonces 8. -/
structure Libraries (Cryptor : Type) where
  md5 : Data → Data
  length_md5 : ∀ d, (md5 d).length = 16
  create : CryptoOperation → CCMode → CCAlgorithm → Option Data → Data → Cryptor
  update : Stage Cryptor UInt8 UInt8
  seamless_update : Seamless update
  update_update : ∀ mode algorithm iv key d, algorithm.Takes iv key →
    (update (create .decrypt mode algorithm iv key) (update (create .encrypt mode algorithm iv key) d).2).2 = d
  chacha20 : Data → Data → Nat → UInt8
  salsa20 : Data → Data → Nat → UInt8
  cryptoStreamChacha20XorIc : Data → Data → Nat → Data → Data
  cryptoStreamSalsa20XorIc : Data → Data → Nat → Data → Data
  combines_chacha20 : CombinesFrom chacha20 cryptoStreamChacha20XorIc
  combines_salsa20 : CombinesFrom salsa20 cryptoStreamSalsa20XorIc

/-- Cryptors that combine the data with a fixed keystream; a digest of zeros. -/
def Libraries.keystream (ks : Nat → UInt8) : Libraries Nat where
  md5 _ := List.replicate 16 0
  length_md5 _ := List.length_replicate
  create _ _ _ _ _ := 0
  update := each fun n b => (n + 1, b ^^^ ks n)
  seamless_update := seamless_each _
  update_update _ _ _ _ d _ := by
    rw [each_each]
    intro n b
    rw [UInt8.xor_assoc, UInt8.xor_self, UInt8.xor_zero]
  chacha20 _ _ := ks
  salsa20 _ _ := ks
  cryptoStreamChacha20XorIc m _ ic _ := m.mapIdx fun i b => b ^^^ ks (64 * ic + i)
  cryptoStreamSalsa20XorIc m _ ic _ := m.mapIdx fun i b => b ^^^ ks (64 * ic + i)
  combines_chacha20 _ _ _ _ := rfl
  combines_salsa20 _ _ _ _ := rfl

/-! ## Keys -/

/-- The key length and the length of the initial vector of an algorithm. -/
def infoDictionary : CryptoAlgorithm → Nat × Nat
  | .AES128CFB => (16, 16)
  | .AES192CFB => (24, 16)
  | .AES256CFB => (32, 16)
  | .CHACHA20 => (32, 8)
  | .SALSA20 => (32, 8)
  | .RC4MD5 => (16, 16)

def getKeyLength (methodType : CryptoAlgorithm) : Nat := (infoDictionary methodType).1

def getIVLength (methodType : CryptoAlgorithm) : Nat := (infoDictionary methodType).2

theorem getIVLength_pos (methodType : CryptoAlgorithm) : 0 < getIVLength methodType := by
  cases methodType <;> decide

theorem getIVLength_le (methodType : CryptoAlgorithm) : getIVLength methodType ≤ 16 := by
  cases methodType <;> decide

section Keys

variable {Cryptor : Type} (lib : Libraries Cryptor)

/-- The loop of `getKey`: `result` is the bytes set so far, of `count`, and `input` what is hashed
next. -/
def fillKey (passwordData : Data) (count : Nat) (result input : Data) : Data :=
  let md5result := lib.md5 input
  let copyLength := min (count - result.length) md5result.length
  let filled := result ++ md5result.take copyLength
  if filled.length < count then fillKey passwordData count filled (md5result ++ passwordData) else filled
termination_by count - result.length
decreasing_by
  rename_i h
  simp only [filled, copyLength, md5result, List.length_append, List.length_take, lib.length_md5] at h ⊢
  omega

def getKey (password : Text) (methodType : CryptoAlgorithm) : Data :=
  (fillKey lib (utf8 password) (getIVLength methodType + getKeyLength methodType) [] (utf8 password)).take
    (getKeyLength methodType)

/-- The chain of digests: each one is of the one before it and the password. -/
def digest (passwordData : Data) : Nat → Data
  | 0 => lib.md5 passwordData
  | n + 1 => lib.md5 (digest passwordData n ++ passwordData)

/-- The first `n` digests. -/
def digests (passwordData : Data) (n : Nat) : Data := (List.range n).flatMap (digest lib passwordData)

variable {lib}

theorem digests_succ (passwordData : Data) (n : Nat) :
    digests lib passwordData (n + 1) = digests lib passwordData n ++ digest lib passwordData n := by
  simp [digests, List.range_succ]

theorem length_digest (passwordData : Data) (n : Nat) : (digest lib passwordData n).length = 16 := by
  cases n <;> exact lib.length_md5 _

theorem length_digests (passwordData : Data) (n : Nat) : (digests lib passwordData n).length = 16 * n := by
  induction n with
  | zero => rfl
  | succ n ih => rw [digests_succ, List.length_append, ih, length_digest]; omega

theorem digests_append (passwordData : Data) (n k : Nat) :
    digests lib passwordData n <+: digests lib passwordData (n + k) := by
  induction k with
  | zero => exact List.prefix_refl _
  | succ k ih =>
    rw [← Nat.add_assoc, digests_succ]
    exact ih.trans (List.prefix_append _ _)

/-- One pass of the loop adds one digest, or what is missing of it. -/
theorem fillKey_pass (passwordData : Data) {count n : Nat} (h : 16 * n < count) {input : Data}
    (hin : lib.md5 input = digest lib passwordData n) :
    digests lib passwordData n ++ (lib.md5 input).take
        (min (count - (digests lib passwordData n).length) (lib.md5 input).length) =
      (digests lib passwordData (n + 1)).take count := by
  have hle : (digests lib passwordData n).length ≤ count := by rw [length_digests]; omega
  rw [← List.take_eq_take_min, hin, digests_succ, List.take_append, List.take_of_length_le hle]

/-- The loop fills the result with the chain of digests. -/
theorem fillKey_digests (passwordData : Data) {count m : Nat} (hm : count ≤ 16 * m) {n : Nat} {input : Data}
    (hin : lib.md5 input = digest lib passwordData n) (hn : 16 * n < count) :
    fillKey lib passwordData count (digests lib passwordData n) input = (digests lib passwordData m).take count := by
  obtain ⟨k, rfl⟩ : ∃ k, m = n + 1 + k := ⟨m - n - 1, by omega⟩
  induction k generalizing n input with
  | zero =>
    have hlen : ((digests lib passwordData (n + 1)).take count).length = count := by
      rw [List.length_take, length_digests]; omega
    rw [fillKey, fillKey_pass passwordData hn hin, hlen, if_neg (Nat.lt_irrefl count)]
  | succ k ih =>
    rw [fillKey, fillKey_pass passwordData hn hin, List.length_take, length_digests]
    split
    · rename_i hmore
      -- the digest fits whole, and the next one is of it and the password
      have hwhole : (digests lib passwordData (n + 1)).take count = digests lib passwordData (n + 1) :=
        List.take_of_length_le (by rw [length_digests]; omega)
      have hnext : lib.md5 (lib.md5 input ++ passwordData) = digest lib passwordData (n + 1) := by rw [hin]; rfl
      rw [hwhole, ih hnext (by omega) (by omega), Nat.add_right_comm (n + 1), Nat.add_assoc (n + 1)]
    · obtain ⟨rest, hrest⟩ : digests lib passwordData (n + 1) <+: digests lib passwordData (n + 1 + (k + 1)) :=
        digests_append passwordData (n + 1) (k + 1)
      rw [← hrest, List.take_append_of_le_length (by rw [length_digests]; omega)]

theorem getKeyLength_le (methodType : CryptoAlgorithm) : getKeyLength methodType ≤ 16 * 2 := by
  cases methodType <;> decide

/-- What is left of the chain behind the key is not used. -/
theorem getKey_digests (password : Text) (methodType : CryptoAlgorithm) :
    getKey lib password methodType = (digests lib (utf8 password) 2).take (getKeyLength methodType) := by
  have hm := getKeyLength_le methodType
  have hpos := getIVLength_pos methodType
  have hiv := getIVLength_le methodType
  have hfill : fillKey lib (utf8 password) (getIVLength methodType + getKeyLength methodType) [] (utf8 password) =
      (digests lib (utf8 password) 3).take (getIVLength methodType + getKeyLength methodType) :=
    fillKey_digests (n := 0) (utf8 password) (by omega) rfl (by omega)
  rw [getKey, hfill, List.take_take, Nat.min_eq_left (by omega), digests_succ,
    List.take_append_of_le_length (by rw [length_digests]; exact hm)]

theorem length_getKey (password : Text) (methodType : CryptoAlgorithm) :
    (getKey lib password methodType).length = getKeyLength methodType := by
  rw [getKey_digests, List.length_take, length_digests]
  exact Nat.min_eq_left (getKeyLength_le methodType)

/-- The key of a password is the start of its chain of digests, of the length the algorithm takes. -/
theorem getKey_eq (password : Text) (methodType : CryptoAlgorithm) :
    getKey lib password methodType = (digests lib (utf8 password) 2).take (getKeyLength methodType) ∧
      (getKey lib password methodType).length = getKeyLength methodType :=
  ⟨getKey_digests password methodType, length_getKey password methodType⟩

end Keys

/-! ## Cipher objects -/

inductive SodiumAlgorithm where
  | chacha20
  | salsa20
  deriving DecidableEq, Repr

/-- `SodiumStreamCrypto`; `counter` is the number of bytes it has worked on. -/
structure SodiumStreamCrypto where
  key : Data
  iv : Data
  algorithm : SodiumAlgorithm
  counter : Nat
  deriving DecidableEq, Repr

section Ciphers

variable {Cryptor : Type} (lib : Libraries Cryptor)

def SodiumStreamCrypto.keystream (s : SodiumStreamCrypto) : Nat → UInt8 :=
  match s.algorithm with
  | .chacha20 => lib.chacha20 s.key s.iv
  | .salsa20 => lib.salsa20 s.key s.iv

/-- `SodiumStreamCrypto.update`: libsodium starts at a block, so the data is put behind a padding that
reaches back to the start of its block. -/
def SodiumStreamCrypto.update : Stage SodiumStreamCrypto UInt8 UInt8 := fun s d =>
  if 0 < d.length then
    let padding := s.counter % 64
    let outputData := if padding = 0 then d else List.replicate padding 0 ++ d
    let outputData := match s.algorithm with
      | .chacha20 => lib.cryptoStreamChacha20XorIc outputData s.iv (s.counter / 64) s.key
      | .salsa20 => lib.cryptoStreamSalsa20XorIc outputData s.iv (s.counter / 64) s.key
    ({ s with counter := s.counter + d.length }, if padding = 0 then outputData else outputData.drop padding)
  else (s, d)

/-- One byte at the position the object is at. -/
def SodiumStreamCrypto.next (s : SodiumStreamCrypto) (b : UInt8) : SodiumStreamCrypto × UInt8 :=
  ({ s with counter := s.counter + 1 }, b ^^^ s.keystream lib s.counter)

variable {lib}

theorem each_next (s : SodiumStreamCrypto) (d : Data) :
    each (SodiumStreamCrypto.next lib) s d =
      ({ s with counter := s.counter + d.length }, d.mapIdx fun i b => b ^^^ s.keystream lib (s.counter + i)) := by
  induction d generalizing s with
  | nil => rfl
  | cons b d ih =>
    have ih := ih (SodiumStreamCrypto.next lib s b).1
    rw [each, ih, List.mapIdx_cons]
    apply Prod.ext
    · show ({ s with counter := s.counter + 1 + d.length } : SodiumStreamCrypto) = _
      rw [List.length_cons, Nat.add_assoc, Nat.add_comm 1]
    · show (b ^^^ s.keystream lib s.counter) :: d.mapIdx (fun i b => b ^^^ s.keystream lib (s.counter + 1 + i)) = _
      simp only [Nat.add_zero, Nat.add_assoc, Nat.add_comm 1]

theorem SodiumStreamCrypto.update_of_pos (s : SodiumStreamCrypto) {d : Data} (hd : 0 < d.length) :
    s.update lib d =
      ({ s with counter := s.counter + d.length },
        ((List.replicate (s.counter % 64) 0 ++ d).mapIdx fun i b =>
          b ^^^ s.keystream lib (64 * (s.counter / 64) + i)).drop (s.counter % 64)) := by
  have hpad : (if s.counter % 64 = 0 then d else List.replicate (s.counter % 64) 0 ++ d) =
      List.replicate (s.counter % 64) 0 ++ d := by
    split
    · rename_i hzero; rw [hzero]; rfl
    · rfl
  have hdrop : ∀ r : Data, (if s.counter % 64 = 0 then r else r.drop (s.counter % 64)) = r.drop (s.counter % 64) := by
    intro r
    split
    · rename_i hzero; rw [hzero]; rfl
    · rfl
  unfold update keystream
  dsimp only
  rw [if_pos hd, hpad, hdrop]
  cases s.algorithm with
  | chacha20 => simp only [lib.combines_chacha20 _ _ _ _]
  | salsa20 => simp only [lib.combines_salsa20 _ _ _ _]

/-- The padding cancels out: what `update` does is the keystream at the position of each byte. -/
theorem SodiumStreamCrypto.update_eq (s : SodiumStreamCrypto) (d : Data) :
    s.update lib d = each (SodiumStreamCrypto.next lib) s d := by
  rw [each_next]
  by_cases hd : 0 < d.length
  · have hpos : 64 * (s.counter / 64) + s.counter % 64 = s.counter := Nat.div_add_mod _ _
    have hshift (i : Nat) : 64 * (s.counter / 64) + (i + s.counter % 64) = s.counter + i := by
      rw [Nat.add_comm i, ← Nat.add_assoc, hpos]
    rw [s.update_of_pos hd, List.mapIdx_append,
      List.drop_left' (by rw [List.length_mapIdx, List.length_replicate]), List.length_replicate]
    simp only [hshift]
  · have hnil : d = [] := List.eq_nil_of_length_eq_zero (by omega)
    subst hnil
    rfl

theorem SodiumStreamCrypto.seamless_update : Seamless (SodiumStreamCrypto.update lib) := by
  intro s xs ys
  simp only [update_eq]
  exact seamless_each _ s xs ys

/-- However the data is cut, each byte is combined with the keystream at its place, counted from the first
byte the object was ever given. -/
theorem SodiumStreamCrypto.run_keystream (s : SodiumStreamCrypto) (ds : List Data) :
    run (SodiumStreamCrypto.update lib) s ds =
      ({ s with counter := s.counter + ds.flatten.length },
        ds.flatten.mapIdx fun i b => b ^^^ s.keystream lib (s.counter + i)) := by
  have hsettled : Settled (SodiumStreamCrypto.update lib) s := by
    rw [Settled, update_eq]; rfl
  rw [seamless_update.run_eq hsettled, update_eq, each_next]

/-- The same update that encrypts decrypts. -/
theorem SodiumStreamCrypto.update_update (s : SodiumStreamCrypto) (d : Data) :
    (s.update lib (s.update lib d).2).2 = d := by
  rw [update_eq, update_eq, each_each]
  intro s b
  rw [next, next]
  exact Prod.ext rfl (by simp only [UInt8.xor_assoc, UInt8.xor_self, UInt8.xor_zero])

end Ciphers

/-- The classes of `StreamCryptoProtocol`: a `CCCrypto` with its cryptor, and `SodiumStreamCrypto`. -/
inductive StreamCrypto (Cryptor : Type) where
  | ccCrypto (cryptor : Cryptor)
  | sodium (s : SodiumStreamCrypto)

section StreamCrypto

variable {Cryptor : Type} (lib : Libraries Cryptor)

def StreamCrypto.update : Stage (StreamCrypto Cryptor) UInt8 UInt8
  | .ccCrypto cryptor, d => (.ccCrypto (lib.update cryptor d).1, (lib.update cryptor d).2)
  | .sodium s, d => (.sodium (s.update lib d).1, (s.update lib d).2)

/-- `getCrypto`, for the initial vector of the operation's direction. -/
def getCrypto (key : Data) (algorithm : CryptoAlgorithm) (operation : CryptoOperation) (iv : Data) :
    StreamCrypto Cryptor :=
  match algorithm with
  | .AES128CFB | .AES192CFB | .AES256CFB => .ccCrypto (lib.create operation .cfb .aes (some iv) key)
  | .CHACHA20 => .sodium ⟨key, iv, .chacha20, 0⟩
  | .SALSA20 => .sodium ⟨key, iv, .salsa20, 0⟩
  | .RC4MD5 => .ccCrypto (lib.create operation .rc4 .rc4 none (lib.md5 (key ++ iv)))

variable {lib}

theorem StreamCrypto.seamless_update : Seamless (StreamCrypto.update lib) := by
  rintro (cryptor | s) xs ys
  · simp only [update, lib.seamless_update cryptor xs ys]
  · simp only [update, SodiumStreamCrypto.seamless_update s xs ys]

/-- For every algorithm and a key of its length, decryption with the initial vector of the encryption gives
the data back. -/
theorem getCrypto_decrypt_encrypt {key : Data} {algorithm : CryptoAlgorithm} {iv : Data}
    (hkey : key.length = getKeyLength algorithm) (hiv : iv.length = getIVLength algorithm) (d : Data) :
    ((getCrypto lib key algorithm .decrypt iv).update lib
      ((getCrypto lib key algorithm .encrypt iv).update lib d).2).2 = d := by
  have hvector : ∀ v ∈ some iv, v.length = getIVLength algorithm := by
    rintro _ ⟨⟩
    exact hiv
  cases algorithm with
  | AES128CFB => exact lib.update_update _ _ _ _ d ⟨.inl hkey, hvector⟩
  | AES192CFB => exact lib.update_update _ _ _ _ d ⟨.inr (.inl hkey), hvector⟩
  | AES256CFB => exact lib.update_update _ _ _ _ d ⟨.inr (.inr hkey), hvector⟩
  | RC4MD5 =>
    refine lib.update_update _ _ _ _ d ?_
    rw [CCAlgorithm.Takes, lib.length_md5]
    decide
  | CHACHA20 | SALSA20 => exact SodiumStreamCrypto.update_update _ d

end StreamCrypto

end VpnSs.NEKit
