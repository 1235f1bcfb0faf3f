/-
`CryptoStreamProcessor`, which encrypts and decrypts the two directions of a Shadowsocks connection.
Each direction begins with an initial vector: `output` sends its own before the first data, `input`
buffers what arrives until it has the peer's. What one side sends the other reads back, for every way
the stream is cut on the road.
-/
import VpnSs.NEKit.Buffer
import VpnSs.NEKit.Crypto

namespace VpnSs.NEKit

open VpnSs.Swift VpnSs.Stream

/-- `CryptoStreamProcessor`; `writeIV`, `encryptor` and `decryptor` are lazy. -/
structure CryptoStreamProcessor (Cryptor : Type) where
  readIV : Option Data
  key : Data
  algorithm : CryptoAlgorithm
  sendKey : Bool
  buffer : Buffer
  writeIV : Data
  encryptor : Option (StreamCrypto Cryptor)
  decryptor : Option (StreamCrypto Cryptor)

/-- `CryptoHelper.getIV`, of what the random generator gives. -/
def getIV (random : Nat → UInt8) (methodType : CryptoAlgorithm) : Data :=
  (List.range (getIVLength methodType)).map random

@[simp] theorem length_getIV (random : Nat → UInt8) (methodType : CryptoAlgorithm) :
    (getIV random methodType).length = getIVLength methodType := by
  rw [getIV, List.length_map, List.length_range]

namespace CryptoStreamProcessor

variable {Cryptor : Type} (lib : Libraries Cryptor)

def create (key : Data) (algorithm : CryptoAlgorithm) (random : Nat → UInt8) : CryptoStreamProcessor Cryptor :=
  { readIV := none, key, algorithm, sendKey := false, buffer := .empty, writeIV := getIV random algorithm,
    encryptor := none, decryptor := none }

/-- `Factory.build` -/
def build (password : Text) (algorithm : CryptoAlgorithm) (random : Nat → UInt8) : CryptoStreamProcessor Cryptor :=
  create (getKey lib password algorithm) algorithm random

def encrypt : Stage (CryptoStreamProcessor Cryptor) UInt8 UInt8 := fun p d =>
  let r := (p.encryptor.getD (getCrypto lib p.key p.algorithm .encrypt p.writeIV)).update lib d
  ({ p with encryptor := some r.1 }, r.2)

/-- `decrypt`, once the peer's initial vector is there. -/
def decrypt (readIV : Data) : Stage (CryptoStreamProcessor Cryptor) UInt8 UInt8 := fun p d =>
  let r := (p.decryptor.getD (getCrypto lib p.key p.algorithm .decrypt readIV)).update lib d
  ({ p with decryptor := some r.1 }, r.2)

/-- `input`, and the data it gives to the next processor: one chunk for one, if need be an empty one. -/
def input : Stage (CryptoStreamProcessor Cryptor) UInt8 UInt8 := fun p d =>
  match p.readIV with
  | some readIV => p.decrypt lib readIV d
  | none =>
    let (readIV, buffer) := (p.buffer.append d).get (getIVLength p.algorithm)
    match readIV with
    | none => ({ p with buffer }, [])
    | some readIV =>
      let (d, buffer) := buffer.getAll
      { p with readIV := some readIV, buffer := buffer.release }.decrypt lib readIV (d.getD [])

/-- `output`, and the data it gives to the next processor. -/
def output : Stage (CryptoStreamProcessor Cryptor) UInt8 UInt8 := fun p d =>
  let (p, d) := p.encrypt lib d
  if p.sendKey then (p, d) else ({ p with sendKey := true }, p.writeIV ++ d)

/-! ## Input as a header and a cipher -/

/-- The stream of one direction: the initial vector, then the cipher it starts. -/
def reader (key : Data) (algorithm : CryptoAlgorithm) : Stage (Data ⊕ StreamCrypto Cryptor) UInt8 UInt8 :=
  headed (getIVLength algorithm) (getCrypto lib key algorithm .decrypt) (StreamCrypto.update lib)

/-- A processor that has read as much as the reader. -/
def Reads (key : Data) (algorithm : CryptoAlgorithm) (p : CryptoStreamProcessor Cryptor) :
    Data ⊕ StreamCrypto Cryptor → Prop
  | .inl held => p.key = key ∧ p.algorithm = algorithm ∧ p.readIV = none ∧ p.buffer = ⟨held, 0⟩ ∧ p.decryptor = none
  | .inr crypto => p.readIV.isSome ∧ p.decryptor = some crypto

theorem seamless_reader (key : Data) (algorithm : CryptoAlgorithm) : Seamless (reader lib key algorithm) :=
  StreamCrypto.seamless_update.headed

theorem settled_reader (key : Data) (algorithm : CryptoAlgorithm) : Settled (reader lib key algorithm) (.inl []) :=
  settled_headed (getIVLength_pos algorithm)

theorem reads_create (key : Data) (algorithm : CryptoAlgorithm) (random : Nat → UInt8) :
    Reads key algorithm (create key algorithm random : CryptoStreamProcessor Cryptor) (.inl []) :=
  ⟨rfl, rfl, rfl, rfl, rfl⟩

/-- `input` does to each chunk what the reader does. -/
theorem input_refines (key : Data) (algorithm : CryptoAlgorithm) :
    Refines (Reads key algorithm) (input lib) (reader lib key algorithm) := by
  rintro p (held | crypto) d h
  · obtain ⟨rfl, rfl, hiv, hbuf, hdec⟩ := h
    have happend : p.buffer.append d = ⟨held ++ d, 0⟩ := by rw [hbuf]; rfl
    by_cases hlen : getIVLength p.algorithm ≤ (held ++ d).length
    · have hget : (⟨held ++ d, 0⟩ : Buffer).get (getIVLength p.algorithm) =
          (some ((held ++ d).take (getIVLength p.algorithm)), ⟨held ++ d, 0 + getIVLength p.algorithm⟩) :=
        Buffer.get_of_le (by rw [Nat.zero_add]; exact hlen)
      have hall : (⟨held ++ d, 0 + getIVLength p.algorithm⟩ : Buffer).getAll =
          (some ((held ++ d).drop (getIVLength p.algorithm)), ⟨held ++ d, (held ++ d).length⟩) := by
        rw [Buffer.getAll_of_le (by rw [Nat.zero_add]; exact hlen), Buffer.unread, Nat.zero_add]
      simp only [input, hiv, happend, hget, hall, decrypt, hdec, reader, headed, if_pos hlen, Option.getD_none,
        Option.getD_some]
      exact ⟨⟨rfl, rfl⟩, trivial⟩
    · have hget : (⟨held ++ d, 0⟩ : Buffer).get (getIVLength p.algorithm) = (none, ⟨held ++ d, 0⟩) :=
        Buffer.get_of_not_le (by rw [Nat.zero_add]; exact hlen)
      simp only [input, hiv, happend, hget, reader, headed, if_neg hlen]
      exact ⟨⟨rfl, rfl, rfl, rfl, hdec⟩, trivial⟩
  · obtain ⟨hiv, hdec⟩ := h
    obtain ⟨iv, hiv⟩ := Option.isSome_iff_exists.1 hiv
    simp only [input, hiv, decrypt, hdec, reader, headed, Option.getD_some]
    exact ⟨⟨rfl, rfl⟩, trivial⟩

/-! ## Output as a cipher behind its initial vector -/

/-- The cipher, and what it gives behind the initial vector. -/
def writer (writeIV : Data) : Stage (StreamCrypto Cryptor × Bool) UInt8 UInt8 :=
  comp (once writeIV) (StreamCrypto.update lib)

/-- A processor that has written as much as the writer. -/
def Writes (key : Data) (algorithm : CryptoAlgorithm) (writeIV : Data) (p : CryptoStreamProcessor Cryptor)
    (w : StreamCrypto Cryptor × Bool) : Prop :=
  p.key = key ∧ p.algorithm = algorithm ∧ p.writeIV = writeIV ∧ p.sendKey = w.2 ∧
    p.encryptor.getD (getCrypto lib key algorithm .encrypt writeIV) = w.1

/-- `output` does to each chunk what the writer does. -/
theorem output_refines (key : Data) (algorithm : CryptoAlgorithm) (writeIV : Data) :
    Refines (Writes lib key algorithm writeIV) (output lib) (writer lib writeIV) := by
  rintro p ⟨crypto, sent⟩ d ⟨rfl, rfl, rfl, hsent, hcrypto⟩
  dsimp only at hsent hcrypto
  subst hsent hcrypto
  cases hs : p.sendKey with
  | true =>
    simp only [output, encrypt, hs, if_true, writer, comp, once]
    exact ⟨⟨rfl, rfl, rfl, rfl, rfl⟩, trivial⟩
  | false =>
    simp only [output, encrypt, hs, Bool.false_eq_true, if_false, writer, comp, once]
    exact ⟨⟨rfl, rfl, rfl, rfl, rfl⟩, trivial⟩

variable {lib} in
/-- Reading leaves the writing side as it is. -/
theorem Writes.input {key : Data} {algorithm : CryptoAlgorithm} {writeIV : Data} {p : CryptoStreamProcessor Cryptor}
    {w : StreamCrypto Cryptor × Bool} (h : Writes lib key algorithm writeIV p w) (d : Data) :
    Writes lib key algorithm writeIV (p.input lib d).1 w := by
  unfold CryptoStreamProcessor.input
  cases hiv : p.readIV with
  | some readIV => exact h
  | none =>
    rcases hget : (p.buffer.append d).get (getIVLength p.algorithm) with ⟨_ | readIV, buffer⟩
    · exact h
    · exact h

variable {lib} in
/-- Writing leaves the reading side as it is. -/
theorem Reads.output {key : Data} {algorithm : CryptoAlgorithm} {p : CryptoStreamProcessor Cryptor}
    {r : Data ⊕ StreamCrypto Cryptor} (h : Reads key algorithm p r) (d : Data) :
    Reads key algorithm (p.output lib d).1 r := by
  unfold CryptoStreamProcessor.output CryptoStreamProcessor.encrypt
  dsimp only
  split
  · cases r <;> exact h
  · cases r <;> exact h

/-- What the writer gives: the initial vector, and all the data under one run of the cipher. -/
theorem run_writer (writeIV : Data) (crypto : StreamCrypto Cryptor) (c : Data) (cs : List Data) :
    (run (writer lib writeIV) (crypto, false) (c :: cs)).2 =
      writeIV ++ (crypto.update lib (c :: cs).flatten).2 := by
  have hcipher : (outputs (StreamCrypto.update lib) (crypto.update lib c).1 cs).flatten =
      ((crypto.update lib c).1.update lib cs.flatten).2 := by
    rw [flatten_outputs, StreamCrypto.seamless_update.run_eq (StreamCrypto.seamless_update.settled _ c)]
  rw [writer, run_comp, outputs, run_once_false, hcipher, List.flatten_cons, StreamCrypto.seamless_update]

/-- The reader reads back what the writer writes. -/
theorem decodes_writer {key : Data} {algorithm : CryptoAlgorithm} {writeIV : Data}
    (hkey : key.length = getKeyLength algorithm) (hiv : writeIV.length = getIVLength algorithm) :
    Decodes (reader lib key algorithm) (.inl []) (writer lib writeIV)
      (getCrypto lib key algorithm .encrypt writeIV, false) := by
  intro cs
  cases cs with
  | nil => rw [run_nil, settled_reader lib]; rfl
  | cons c cs =>
    rw [run_writer, reader, headed_append hiv]
    exact getCrypto_decrypt_encrypt hkey hiv _

/-- A processor with the same key reads back what another one writes. -/
theorem decodes_output {key : Data} {algorithm : CryptoAlgorithm} (hkey : key.length = getKeyLength algorithm)
    (random : Nat → UInt8) :
    Decodes (reader lib key algorithm) (.inl []) (output lib) (create key algorithm random) := by
  intro cs
  have hnew : Writes lib key algorithm (getIV random algorithm) (create key algorithm random)
      (getCrypto lib key algorithm .encrypt (getIV random algorithm), false) := ⟨rfl, rfl, rfl, rfl, rfl⟩
  rw [((output_refines lib key algorithm _).run_eq hnew cs).2]
  exact decodes_writer lib hkey (length_getIV random algorithm) cs

/-- Both ends of a connection with a key of the length the algorithm takes: whatever chunks one processor is
given to send and whatever chunks the network makes of it, the peer gives on what was sent, and at any moment
a beginning of it. -/
theorem run_input_output {key : Data} {algorithm : CryptoAlgorithm} (hkey : key.length = getKeyLength algorithm)
    (random random' : Nat → UInt8) (cs ds : List Data)
    (hds : ds.flatten <+: (run (output lib) (create key algorithm random) cs).2) :
    (run (input lib) (create key algorithm random') ds).2 <+: cs.flatten ∧
      (ds.flatten = (run (output lib) (create key algorithm random) cs).2 →
        (run (input lib) (create key algorithm random') ds).2 = cs.flatten) := by
  rw [((input_refines lib key algorithm).run_eq (reads_create key algorithm random') ds).2]
  constructor
  · exact (decodes_output lib hkey random).run_part (seamless_reader lib key algorithm) (settled_reader lib key algorithm) hds
  · intro heq
    exact (decodes_output lib hkey random).run_run (seamless_reader lib key algorithm) (settled_reader lib key algorithm) heq

theorem run_input_output_chunks : ∃ key wire : Data,
    wire = (run (output (.keystream UInt8.ofNat)) (create key .CHACHA20 UInt8.ofNat) [[1, 2], [3]]).2 ∧
      (run (input (.keystream UInt8.ofNat)) (create key .CHACHA20 UInt8.ofNat) [wire.take 5, wire.drop 5]).2 =
        [1, 2, 3] := by
  have hkey : (List.replicate 32 7 : Data).length = getKeyLength .CHACHA20 := List.length_replicate
  refine ⟨List.replicate 32 7, _, rfl, ?_⟩
  have hcut : ∀ d : Data, [d.take 5, d.drop 5].flatten = d := by
    intro d
    rw [List.flatten_cons, List.flatten_cons, List.flatten_nil, List.append_nil, List.take_append_drop]
  refine (run_input_output (.keystream UInt8.ofNat) hkey UInt8.ofNat UInt8.ofNat [[1, 2], [3]] _ ?_).2 (hcut _)
  rw [hcut]

end CryptoStreamProcessor

end VpnSs.NEKit
