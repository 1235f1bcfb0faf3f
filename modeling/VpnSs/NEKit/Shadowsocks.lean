/-
The processors of a `ShadowsocksAdapter` as the packet tunnel builds it: the origin stream obfuscater,
which puts the request for the session's host and port before the first data, the crypto stream
processor, and the origin protocol obfuscater, which passes everything on. A server with the same key
reads the request and the data back, however both directions are cut and interleaved.
-/
import VpnSs.NEKit.CryptoStream

namespace VpnSs.NEKit

open VpnSs.Swift VpnSs.Stream

/-! ## The request -/

structure OriginStreamObfuscater where
  session : ConnectSession
  requestSend : Bool

namespace OriginStreamObfuscater

/-- `requestData(withData:)`: the address type of a domain, the host with its length, the port, then the
data. None where it traps: the length has one byte, the port two. -/
def requestData (session : ConnectSession) (d : Data) : Option Data := do
  let hostLength ← toUInt8 (utf8 session.host).length
  let port ← toUInt16 session.port
  return 3 :: hostLength :: (utf8 session.host ++ (bigEndian port ++ d))

/-- `output`, and what it gives to the next processor. -/
def output (o : OriginStreamObfuscater) (d : Data) : Option (OriginStreamObfuscater × Data) :=
  if o.requestSend then some (o, d)
  else (requestData o.session d).map fun request => ({ o with requestSend := true }, request)

end OriginStreamObfuscater

/-- What a server reads at the start of a stream: the host, the port, and the data that follows. -/
def readRequest : Data → Option (Data × Nat × Data)
  | 3 :: hostLength :: rest =>
    match rest.drop hostLength.toNat with
    | hi :: lo :: d => some (rest.take hostLength.toNat, ofBigEndian hi lo, d)
    | _ => none
  | _ => none

/-- The session can be asked for: its host and port fit their fields. -/
def ConnectSession.Fits (s : ConnectSession) : Prop := (utf8 s.host).length < 256 ∧ 0 ≤ s.port ∧ s.port < 65536

instance (s : ConnectSession) : Decidable s.Fits := inferInstanceAs (Decidable (_ ∧ _ ∧ _))

namespace OriginStreamObfuscater

theorem requestData_eq_map (session : ConnectSession) (d : Data) :
    requestData session d = (requestData session []).map (· ++ d) := by
  unfold requestData
  rcases toUInt8 (utf8 session.host).length with _ | hostLength
  · rfl
  · rcases toUInt16 session.port with _ | port
    · rfl
    · simp

theorem requestData_isSome (session : ConnectSession) (d : Data) : (requestData session d).isSome ↔ session.Fits := by
  have hhost := toUInt8_isSome (n := ((utf8 session.host).length : Int))
  have hport := toUInt16_isSome (n := session.port)
  unfold requestData ConnectSession.Fits
  rcases h8 : toUInt8 (utf8 session.host).length with _ | hostLength
  · rw [h8] at hhost
    simp only [Option.isSome_none, Bool.false_eq_true, false_iff] at hhost
    simp only [Option.bind_eq_bind, Option.bind_none, Option.isSome_none, Bool.false_eq_true, false_iff]
    omega
  · rw [h8] at hhost
    rcases h16 : toUInt16 session.port with _ | port
    · rw [h16] at hport
      simp only [Option.isSome_none, Bool.false_eq_true, false_iff] at hport
      simp only [Option.bind_eq_bind, Option.bind_some, Option.bind_none, Option.isSome_none, Bool.false_eq_true,
        false_iff]
      omega
    · rw [h16] at hport
      simp only [Option.isSome_some, true_iff] at hhost hport
      simp only [Option.bind_eq_bind, Option.bind_some, Option.pure_def, Option.isSome_some, true_iff]
      omega

/-- A server reads back the host, the port and the data of a request. -/
theorem readRequest_requestData {session : ConnectSession} {d request : Data}
    (h : requestData session d = some request) :
    ∃ port : Nat, session.port = port ∧ readRequest request = some (utf8 session.host, port, d) := by
  simp only [requestData, Option.bind_eq_bind, Option.bind_eq_some_iff, Option.pure_def, Option.some.injEq] at h
  obtain ⟨hostLength, h8, port, h16, rfl⟩ := h
  have hlen : hostLength.toNat = (utf8 session.host).length := by
    have := toUInt8_eq_some.1 h8
    omega
  refine ⟨port.toNat, toUInt16_eq_some.1 h16, ?_⟩
  rw [readRequest, hlen, List.drop_left, List.take_left, bigEndian, List.cons_append, List.cons_append,
    List.nil_append]
  dsimp only
  rw [ofBigEndian_bigEndian]

end OriginStreamObfuscater

/-! ## The chain of processors -/

/-- The processors of an adapter. The origin protocol obfuscater keeps nothing and changes nothing. -/
structure Processors (Cryptor : Type) where
  cryptor : CryptoStreamProcessor Cryptor
  streamObfuscator : OriginStreamObfuscater

/-- `ShadowsocksAdapterFactory.getAdapterFor`: the processors for a session. -/
def ShadowsocksAdapterFactory.processors {Cryptor : Type} (lib : Libraries Cryptor) (factory : ShadowsocksAdapterFactory)
    (session : ConnectSession) (random : Nat → UInt8) : Processors Cryptor :=
  { cryptor := .build lib factory.password factory.algorithm random, streamObfuscator := ⟨session, false⟩ }

namespace Processors

variable {Cryptor : Type} (lib : Libraries Cryptor)

/-- From `write(data:)` of the adapter to `write(rawData:)`: obfuscated, then encrypted. -/
def output (s : Processors Cryptor) (d : Data) : Option (Processors Cryptor × Data) := do
  let (streamObfuscator, d) ← s.streamObfuscator.output d
  let (cryptor, d) := s.cryptor.output lib d
  return ({ cryptor, streamObfuscator }, d)

/-- From `didRead` of the adapter to `input`, which tells its delegate. -/
def input (s : Processors Cryptor) (d : Data) : Processors Cryptor × Data :=
  let (cryptor, d) := s.cryptor.input lib d
  ({ s with cryptor }, d)

/-! ## What a chain has sent and received -/

/-- The chunks the cryptor gets: the request stands before the first one. -/
def framed (request : Data) : List Data → List Data
  | [] => []
  | w :: ws => (request ++ w) :: ws

theorem framed_concat {request : Data} {ws : List Data} (h : ws ≠ []) (w : Data) :
    framed request (ws ++ [w]) = framed request ws ++ [w] := by
  cases ws with
  | nil => exact absurd rfl h
  | cons v ws => rfl

theorem flatten_framed {request : Data} {ws : List Data} (h : ws ≠ []) :
    (framed request ws).flatten = request ++ ws.flatten := by
  cases ws with
  | nil => exact absurd rfl h
  | cons w ws => rw [framed, List.flatten_cons, List.flatten_cons, List.append_assoc]

section Ends

variable (key : Data) (algorithm : CryptoAlgorithm) (writeIV : Data) (session : ConnectSession)

/-- What the writes `ws` come to on the wire, as the writer of the cryptor gives it. -/
def wire (ws : List Data) : Data :=
  (run (CryptoStreamProcessor.writer lib writeIV) (getCrypto lib key algorithm .encrypt writeIV, false)
    (framed ((OriginStreamObfuscater.requestData session []).getD []) ws)).2

/-- The chain has turned the writes `ws` into the bytes `sent`. -/
structure Sent (s : Processors Cryptor) (ws : List Data) (sent : Data) : Prop where
  session_eq : s.streamObfuscator.session = session
  requestSend : s.streamObfuscator.requestSend = !ws.isEmpty
  fits : ws ≠ [] → session.Fits
  writes : CryptoStreamProcessor.Writes lib key algorithm writeIV s.cryptor
    (run (CryptoStreamProcessor.writer lib writeIV) (getCrypto lib key algorithm .encrypt writeIV, false)
      (framed ((OriginStreamObfuscater.requestData session []).getD []) ws)).1
  sent_eq : sent = wire lib key algorithm writeIV session ws

/-- The chain has given on `plain` of the chunks `rs` it has received. -/
structure Received (s : Processors Cryptor) (rs : List Data) (plain : Data) : Prop where
  reads : CryptoStreamProcessor.Reads key algorithm s.cryptor
    (run (CryptoStreamProcessor.reader lib key algorithm) (.inl []) rs).1
  plain_eq : plain = (run (CryptoStreamProcessor.reader lib key algorithm) (.inl []) rs).2

variable {lib key algorithm writeIV session}

/-- A write adds its bytes to what was sent. -/
theorem Sent.output {s s' : Processors Cryptor} {ws : List Data} {sent d out : Data}
    (h : Sent lib key algorithm writeIV session s ws sent) (ho : s.output lib d = some (s', out)) :
    Sent lib key algorithm writeIV session s' (ws ++ [d]) (sent ++ out) := by
  simp only [Processors.output, Option.bind_eq_bind, Option.bind_eq_some_iff, Option.pure_def, Option.some.injEq,
    Prod.exists, Prod.mk.injEq] at ho
  obtain ⟨streamObfuscator, d', hobf, rfl, rfl⟩ := ho
  have hne : ws ++ [d] ≠ [] := List.append_ne_nil_of_right_ne_nil ws (List.cons_ne_nil d [])
  -- the chunk the cryptor gets is the next one of the framed writes
  have hstep : streamObfuscator.session = session ∧ streamObfuscator.requestSend = true ∧ session.Fits ∧
      framed ((OriginStreamObfuscater.requestData session []).getD []) (ws ++ [d]) =
        framed ((OriginStreamObfuscater.requestData session []).getD []) ws ++ [d'] := by
    have hsend := h.requestSend
    simp only [OriginStreamObfuscater.output] at hobf
    cases ws with
    | nil =>
      rw [hsend, h.session_eq, OriginStreamObfuscater.requestData_eq_map] at hobf
      simp only [List.isEmpty_nil, Bool.not_true, Bool.false_eq_true, if_false, Option.map_map,
        Option.map_eq_some_iff, Function.comp_apply, Prod.mk.injEq] at hobf
      obtain ⟨request, hreq, rfl, rfl⟩ := hobf
      have hfits : session.Fits := by
        rw [← OriginStreamObfuscater.requestData_isSome session [], hreq]; rfl
      exact ⟨rfl, rfl, hfits, by rw [hreq]; rfl⟩
    | cons w ws =>
      rw [hsend] at hobf
      cases hobf
      exact ⟨h.session_eq, hsend, h.fits (List.cons_ne_nil w ws), framed_concat (List.cons_ne_nil w ws) d⟩
  obtain ⟨hsession, hsend, hfits, hframed⟩ := hstep
  obtain ⟨hwrites, hout⟩ := CryptoStreamProcessor.output_refines lib key algorithm writeIV s.cryptor _ d' h.writes
  refine ⟨hsession, ?_, fun _ => hfits, ?_, ?_⟩
  · rw [hsend]; cases ws <;> rfl
  · rw [hframed, run_concat]; exact hwrites
  · rw [wire, hframed, run_concat, h.sent_eq, wire, hout]

/-- A chain that has sent something takes any further data; the first only if the session fits. -/
theorem Sent.output_isSome {s : Processors Cryptor} {ws : List Data} {sent d : Data}
    (h : Sent lib key algorithm writeIV session s ws sent) : (s.output lib d).isSome ↔ session.Fits := by
  have hiff : (s.output lib d).isSome ↔ (s.streamObfuscator.output d).isSome := by
    unfold Processors.output
    cases s.streamObfuscator.output d <;> simp
  rw [hiff, OriginStreamObfuscater.output, h.requestSend]
  cases ws with
  | nil =>
    rw [h.session_eq, ← OriginStreamObfuscater.requestData_isSome session d]
    simp
  | cons w ws => exact iff_of_true rfl (h.fits (List.cons_ne_nil w ws))

/-- What is received does not matter to what is sent. -/
theorem Sent.input {s : Processors Cryptor} {ws : List Data} {sent : Data}
    (h : Sent lib key algorithm writeIV session s ws sent) (d : Data) :
    Sent lib key algorithm writeIV session (s.input lib d).1 ws sent :=
  ⟨h.session_eq, h.requestSend, h.fits, h.writes.input d, h.sent_eq⟩

theorem Received.input {s : Processors Cryptor} {rs : List Data} {plain : Data}
    (h : Received lib key algorithm s rs plain) (d : Data) :
    Received lib key algorithm (s.input lib d).1 (rs ++ [d]) (plain ++ (s.input lib d).2) := by
  obtain ⟨hreads, hplain⟩ := CryptoStreamProcessor.input_refines lib key algorithm s.cryptor _ d h.reads
  constructor
  · rw [run_concat]; exact hreads
  · rw [run_concat, h.plain_eq, Processors.input, hplain]

theorem Received.output {s s' : Processors Cryptor} {rs : List Data} {plain d out : Data}
    (h : Received lib key algorithm s rs plain) (ho : s.output lib d = some (s', out)) :
    Received lib key algorithm s' rs plain := by
  simp only [Processors.output, Option.bind_eq_bind, Option.bind_eq_some_iff, Option.pure_def, Option.some.injEq,
    Prod.exists, Prod.mk.injEq] at ho
  obtain ⟨streamObfuscator, d', -, rfl, rfl⟩ := ho
  exact ⟨h.reads.output d', h.plain_eq⟩

end Ends

/-! ## A server at the other end -/

/-- Writes one after another, and all the bytes they come to; none where one of them traps. -/
def sendAll (s : Processors Cryptor) : List Data → Option (Processors Cryptor × Data)
  | [] => some (s, [])
  | w :: ws => do
    let (s, out) ← s.output lib w
    let (s, rest) ← sendAll s ws
    return (s, out ++ rest)

variable {lib}

theorem sent_processors (factory : ShadowsocksAdapterFactory) (session : ConnectSession) (random : Nat → UInt8) :
    Sent lib (getKey lib factory.password factory.algorithm) factory.algorithm (getIV random factory.algorithm) session
      (factory.processors lib session random) [] [] :=
  ⟨rfl, rfl, fun h => absurd rfl h, ⟨rfl, rfl, rfl, rfl, rfl⟩, rfl⟩

theorem received_processors (factory : ShadowsocksAdapterFactory) (session : ConnectSession) (random : Nat → UInt8) :
    Received lib (getKey lib factory.password factory.algorithm) factory.algorithm
      (factory.processors lib session random) [] [] :=
  ⟨CryptoStreamProcessor.reads_create _ _ random, rfl⟩

section Ends

variable {key : Data} {algorithm : CryptoAlgorithm} {writeIV : Data} {session : ConnectSession}

theorem Sent.sendAll {s s' : Processors Cryptor} {ws vs : List Data} {sent out : Data}
    (h : Sent lib key algorithm writeIV session s vs sent) (ho : s.sendAll lib ws = some (s', out)) :
    Sent lib key algorithm writeIV session s' (vs ++ ws) (sent ++ out) := by
  induction ws generalizing s vs sent out with
  | nil =>
    cases ho
    rw [List.append_nil, List.append_nil]
    exact h
  | cons w ws ih =>
    simp only [Processors.sendAll, Option.bind_eq_bind, Option.bind_eq_some_iff, Option.pure_def, Option.some.injEq,
      Prod.exists, Prod.mk.injEq] at ho
    obtain ⟨t, out, hout, t', rest, hrest, rfl, rfl⟩ := ho
    have hall := ih (h.output hout) hrest
    rw [List.append_assoc, List.append_assoc] at hall
    exact hall

/-- A session that fits lets every write through, and one that does not the first not. -/
theorem Sent.sendAll_isSome {s : Processors Cryptor} {ws vs : List Data} {sent : Data}
    (h : Sent lib key algorithm writeIV session s vs sent) : (s.sendAll lib ws).isSome ↔ ws = [] ∨ session.Fits := by
  induction ws generalizing s vs sent with
  | nil => exact iff_of_true rfl (.inl rfl)
  | cons w ws ih =>
    have hfirst := h.output_isSome (d := w)
    rcases hout : s.output lib w with _ | ⟨t, out⟩
    · rw [hout] at hfirst
      have hnot : ¬ session.Fits := by
        rw [← hfirst]; exact Bool.false_ne_true
      simp [Processors.sendAll, hout, hnot]
    · have hfits : session.Fits := by rw [← hfirst, hout]; rfl
      have hrest := (ih (h.output hout)).2 (.inr hfits)
      obtain ⟨⟨t', rest⟩, hrest⟩ := Option.isSome_iff_exists.1 hrest
      simp [Processors.sendAll, hout, hrest, hfits]

/-- The cipher taken off, the bytes of some writes are the request with all the data. -/
theorem reader_wire (hkey : key.length = getKeyLength algorithm) (hiv : writeIV.length = getIVLength algorithm)
    (hfits : session.Fits) {ws : List Data} (hws : ws ≠ []) :
    OriginStreamObfuscater.requestData session ws.flatten =
      some (CryptoStreamProcessor.reader lib key algorithm (.inl []) (wire lib key algorithm writeIV session ws)).2 := by
  obtain ⟨request, hreq⟩ := Option.isSome_iff_exists.1 ((OriginStreamObfuscater.requestData_isSome session []).2 hfits)
  rw [OriginStreamObfuscater.requestData_eq_map, wire, hreq, Option.getD_some, Option.map_some,
    CryptoStreamProcessor.decodes_writer lib hkey hiv, flatten_framed hws]

end Ends

/-- A new adapter takes all its writes exactly when the session fits, or there are none. What it has sent
a server with the same password reads, in whatever chunks it comes, as the request for the session's host
and port with all the data written. -/
theorem server_reads_request (factory : ShadowsocksAdapterFactory) (session : ConnectSession) (random random' : Nat → UInt8)
    (ws : List Data) :
    (((factory.processors lib session random).sendAll lib ws).isSome ↔ ws = [] ∨ session.Fits) ∧
      ∀ s sent ds, (factory.processors lib session random).sendAll lib ws = some (s, sent) → ws ≠ [] →
        ds.flatten = sent →
          ∃ port : Nat, session.port = port ∧
            readRequest (run (CryptoStreamProcessor.input lib) (.build lib factory.password factory.algorithm random') ds).2 =
              some (utf8 session.host, port, ws.flatten) := by
  have hnew : Sent lib _ _ _ _ (factory.processors lib session random) [] [] := sent_processors factory session random
  constructor
  · exact hnew.sendAll_isSome
  · intro s sent ds hsend hws hds
    have hsent := hnew.sendAll hsend
    rw [List.nil_append, List.nil_append] at hsent
    have hrun := ((CryptoStreamProcessor.input_refines lib (getKey lib factory.password factory.algorithm)
      factory.algorithm).run_eq (CryptoStreamProcessor.reads_create _ _ random') ds).2
    have hread : OriginStreamObfuscater.requestData session ws.flatten = some (CryptoStreamProcessor.reader lib
        (getKey lib factory.password factory.algorithm) _ (.inl []) (wire lib _ _ _ session ws)).2 :=
      reader_wire (length_getKey _ _) (length_getIV random factory.algorithm) (hsent.fits hws) hws
    have hseamless := (CryptoStreamProcessor.seamless_reader lib (getKey lib factory.password factory.algorithm)
      factory.algorithm).run_eq (CryptoStreamProcessor.settled_reader lib _ _) ds
    rw [CryptoStreamProcessor.build, hrun, hseamless, hds, hsent.sent_eq]
    exact OriginStreamObfuscater.readRequest_requestData hread

end Processors

end VpnSs.NEKit
